/-
# JSON as arguments

Host data made from JSON is a tree. Each container is added to the heap behind everything in
it, so it gets a larger number than all it holds, and the containers around a place are
never found again below it. That leaves one reason to refuse such data, which is its depth:
unfolding it gives the structural image of the JSON value wherever its height fits in.

The heap only grows while a value is added, and later containers are out of the value's
reach. So what is shown about a value is shown for every later heap.
-/

import HtmlTemplate.Host.OfJson
import HtmlTemplate.Proofs.Arguments.Acceptance
import HtmlTemplate.Proofs.Json.Nesting
import Mathlib.Data.List.Nodup

namespace HtmlTemplate

namespace Data

/-- A new key is set at the end. -/
theorem setEntry_of_notMem {α β : Type} [DecidableEq α] {key : α} (value : β)
    {entries : List (α × β)} (fresh : key ∉ entries.map Prod.fst) :
    setEntry key value entries = entries ++ [(key, value)] := by
  induction entries with
  | nil => rfl
  | cons entry rest ih =>
      obtain ⟨other, old⟩ := entry
      rw [List.map_cons, List.mem_cons, not_or] at fresh
      rw [setEntry, if_neg (Ne.symm fresh.1), ih fresh.2]
      rfl

/-- Entries with distinct keys are put into a map as they are. -/
theorem OrderedMap.entries_foldl_insert {α β : Type} [DecidableEq α] {entries : List (α × β)}
    (distinct : (entries.map Prod.fst).Nodup) :
    (entries.foldl (fun map entry => map.insert entry.1 entry.2) OrderedMap.empty).entries =
      entries := by
  have behind (map : OrderedMap α β)
      (separate : ((map.entries ++ entries).map Prod.fst).Nodup) :
      (entries.foldl (fun map entry => map.insert entry.1 entry.2) map).entries =
        map.entries ++ entries := by
    clear distinct
    induction entries generalizing map with
    | nil => simp
    | cons entry rest ih =>
        have fresh : entry.1 ∉ map.entries.map Prod.fst := by
          intro known
          rw [List.map_append, List.nodup_append] at separate
          exact separate.2.2 _ known _ (List.mem_map_of_mem List.mem_cons_self) rfl
        have inserted : (map.insert entry.1 entry.2).entries = map.entries ++ [entry] :=
          setEntry_of_notMem entry.2 fresh
        rw [List.foldl_cons, ih _ (by rw [inserted]; simpa using separate), inserted]
        simp
  exact behind .empty distinct

end Data

namespace Host

open Json

namespace Heap

/-- The later heap holds what the earlier one does, and perhaps more behind it. -/
structure Extends (heap later : Heap) : Prop where
  size_le : heap.cells.size ≤ later.cells.size
  inspect?_eq : ∀ id, id.index < heap.cells.size → later.inspect? id = heap.inspect? id

namespace Extends

theorem refl (heap : Heap) : heap.Extends heap := ⟨Nat.le_refl _, fun _ _ => rfl⟩

theorem trans {first second third : Heap} (earlier : first.Extends second)
    (later : second.Extends third) : first.Extends third where
  size_le := Nat.le_trans earlier.size_le later.size_le
  inspect?_eq id known := by
    rw [later.inspect?_eq id (Nat.lt_of_lt_of_le known earlier.size_le),
      earlier.inspect?_eq id known]

end Extends

/-- A new container goes behind the others. -/
theorem extends_alloc (heap : Heap) (container : Container) :
    heap.Extends (heap.alloc container).2 where
  size_le := by simp [alloc]
  inspect?_eq id known := by
    simp [alloc, inspect?, cell?, Array.getElem?_push, Nat.ne_of_lt known]

/-- A new container is open. -/
theorem inspect?_alloc (heap : Heap) (container : Container) :
    (heap.alloc container).2.inspect? (heap.alloc container).1 = some container := by
  simp [alloc, inspect?, cell?]

/-- A heap that was added to after a container holds the container and all before it. -/
theorem Extends.of_alloc {heap later : Heap} {container : Container}
    (grown : (heap.alloc container).2.Extends later) :
    heap.Extends later ∧ later.inspect? ⟨heap.cells.size⟩ = some container := by
  refine ⟨(extends_alloc heap container).trans grown, ?_⟩
  rw [grown.inspect?_eq _ (by simp [alloc])]
  exact inspect?_alloc heap container

/-- A new container is none of the later ones, and comes before them. -/
theorem notMem_of_alloc {heap : Heap} {container : Container} {above : List ContainerId}
    (around : ∀ id ∈ above, (heap.alloc container).2.cells.size ≤ id.index) :
    (⟨heap.cells.size⟩ : ContainerId) ∉ above ∧
      ∀ id ∈ (⟨heap.cells.size⟩ : ContainerId) :: above, heap.cells.size ≤ id.index := by
  have size : (heap.alloc container).2.cells.size = heap.cells.size + 1 := by simp [alloc]
  rw [size] at around
  constructor
  · intro known
    exact Nat.not_succ_le_self _ (around _ known)
  · intro id among
    rcases List.mem_cons.mp among with rfl | outer
    · exact Nat.le_refl _
    · exact Nat.le_of_succ_le (around id outer)

mutual

/-- Adding a value only adds containers. -/
theorem extends_ofJson : ∀ (value : JsonValue) (heap : Heap), heap.Extends (heap.ofJson value).2
  | .null, heap | .bool _, heap | .number _, heap | .string _, heap => .refl heap
  | .array items, heap => by
      rw [ofJson]
      exact (extends_ofJsonItems items heap).trans (extends_alloc _ _)
  | .object fields, heap => by
      rw [ofJson]
      exact (extends_ofJsonFields fields heap).trans (extends_alloc _ _)

theorem extends_ofJsonItems : ∀ (items : List JsonValue) (heap : Heap),
    heap.Extends (heap.ofJsonItems items).2
  | [], heap => .refl heap
  | item :: rest, heap => by
      rw [ofJsonItems]
      exact (extends_ofJson item heap).trans (extends_ofJsonItems rest _)

theorem extends_ofJsonFields : ∀ (fields : List (String × JsonValue)) (heap : Heap),
    heap.Extends (heap.ofJsonFields fields).2
  | [], heap => .refl heap
  | (_, value) :: rest, heap => by
      rw [ofJsonFields]
      exact (extends_ofJson value heap).trans (extends_ofJsonFields rest _)

end

/-- Fields become properties of the same names. -/
theorem keys_ofJsonFields (fields : List (String × JsonValue)) (heap : Heap) :
    (heap.ofJsonFields fields).1.map Prod.fst = fields.map fun field => .name field.1 := by
  induction fields generalizing heap with
  | nil => rfl
  | cons field rest ih =>
      obtain ⟨name, value⟩ := field
      rw [ofJsonFields]
      show PropertyKey.name name :: _ = _
      rw [ih, List.map_cons]

/-- An object with distinct names is added with all its fields, in order. -/
theorem ofJson_object {fields : List (String × JsonValue)}
    (distinct : (fields.map Prod.fst).Nodup) (heap : Heap) :
    ∃ props : Data.OrderedMap PropertyKey Property,
      props.entries = (heap.ofJsonFields fields).1 ∧
        heap.ofJson (.object fields) =
          (.ref ⟨(heap.ofJsonFields fields).2.cells.size⟩,
            ((heap.ofJsonFields fields).2.alloc (.object .plain props)).2) := by
  have names : ((heap.ofJsonFields fields).1.map Prod.fst).Nodup := by
    rw [keys_ofJsonFields]
    have injective : Function.Injective PropertyKey.name := fun _ _ same =>
      PropertyKey.name.inj same
    have renamed := List.Nodup.map injective distinct
    rwa [List.map_map] at renamed
  exact ⟨_, Data.OrderedMap.entries_foldl_insert names, by rw [ofJson]; rfl⟩

end Heap

end Host

namespace Arguments

open Host Json Render

/-- A container takes one more place than what is in it. -/
theorem FitsIn.container {heap : Heap} {id : ContainerId} {container : Container}
    (opened : heap.inspect? id = some container) {above : List ContainerId} (outside : id ∉ above)
    {room height : Nat} {key : String} {tree : Value}
    (inside : ∀ room, FitsIn room height tree
      (unfoldContainer (unfoldValue heap room (id :: above)) key container)) :
    FitsIn room (height + 1) tree (unfoldValue heap room above key (.ref id)) := by
  cases room with
  | zero =>
      rw [unfoldValue_ref, if_neg outside, FitsIn, if_neg (Nat.not_succ_le_zero height)]
      exact ⟨key, rfl⟩
  | succ room =>
      rw [unfoldValue_ref_of_inspect? opened outside]
      simpa only [FitsIn, Nat.add_le_add_iff_right] using inside room

mutual

/-- JSON data unfolds to its image wherever its height fits in, whatever was added to the heap
behind it, as long as it stands inside later containers only. -/
theorem fitsIn_ofJson : ∀ (value : JsonValue), value.HasDistinctNames →
    ∀ {heap later : Heap} {above : List ContainerId}, (heap.ofJson value).2.Extends later →
      (∀ id ∈ above, (heap.ofJson value).2.cells.size ≤ id.index) → ∀ (room : Nat) (key : String),
        FitsIn room value.height value.image
          (unfoldValue later room above key (heap.ofJson value).1)
  | .null, _, heap, later, above, _, _, room, key => by
      rw [Heap.ofJson, unfoldValue]
      exact .ok _
  | .bool _, _, heap, later, above, _, _, room, key => by
      rw [Heap.ofJson, unfoldValue]
      exact .ok _
  | .number (.unsigned _), _, heap, later, above, _, _, room, key
  | .number (.negative _), _, heap, later, above, _, _, room, key
  | .number (.double _), _, heap, later, above, _, _, room, key => by
      rw [Heap.ofJson, unfoldValue]
      exact .ok _
  | .string _, _, heap, later, above, _, _, room, key => by
      rw [Heap.ofJson, unfoldValue]
      exact .ok _
  | .array items, distinct, heap, later, above, grown, around, room, key => by
      have added : heap.ofJson (.array items) =
          (.ref ⟨(heap.ofJsonItems items).2.cells.size⟩,
            ((heap.ofJsonItems items).2.alloc (.array (heap.ofJsonItems items).1)).2) := by
        rw [Heap.ofJson]
        rfl
      rw [added] at grown around ⊢
      obtain ⟨before, opened⟩ := Heap.Extends.of_alloc grown
      obtain ⟨outside, inner⟩ := Heap.notMem_of_alloc around
      apply FitsIn.container opened outside
      intro room
      exact (fitsIn_ofJsonItems items distinct before inner room key).map Value.array
  | .object fields, distinct, heap, later, above, grown, around, room, key => by
      obtain ⟨props, entries, added⟩ := Heap.ofJson_object distinct.1 heap
      rw [added] at grown around ⊢
      obtain ⟨before, opened⟩ := Heap.Extends.of_alloc grown
      obtain ⟨outside, inner⟩ := Heap.notMem_of_alloc around
      apply FitsIn.container opened outside
      intro room
      have fields := fitsIn_ofJsonFields fields distinct.2 before inner room
      rw [← entries] at fields
      exact fields.map Value.object

theorem fitsIn_ofJsonItems : ∀ (items : List JsonValue), JsonValue.ItemsHaveDistinctNames items →
    ∀ {heap later : Heap} {above : List ContainerId}, (heap.ofJsonItems items).2.Extends later →
      (∀ id ∈ above, (heap.ofJsonItems items).2.cells.size ≤ id.index) →
        ∀ (room : Nat) (key : String),
          FitsIn room (JsonValue.itemsHeight items) (JsonValue.itemImages items)
            ((heap.ofJsonItems items).1.mapM (unfoldValue later room above key))
  | [], _, heap, later, above, _, _, room, key => .ok []
  | item :: rest, distinct, heap, later, above, grown, around, room, key => by
      rw [Heap.ofJsonItems] at grown around ⊢
      have passed := Heap.extends_ofJsonItems rest (heap.ofJson item).2
      have first := fitsIn_ofJson item distinct.1 (passed.trans grown)
        (fun id outer => Nat.le_trans passed.size_le (around id outer)) room key
      have others := fitsIn_ofJsonItems rest distinct.2 grown around room key
      show FitsIn room _ _ (List.mapM _ (_ :: _))
      rw [List.mapM_cons]
      exact first.pair others List.cons

theorem fitsIn_ofJsonFields : ∀ (fields : List (String × JsonValue)),
    JsonValue.FieldsHaveDistinctNames fields →
    ∀ {heap later : Heap} {above : List ContainerId}, (heap.ofJsonFields fields).2.Extends later →
      (∀ id ∈ above, (heap.ofJsonFields fields).2.cells.size ≤ id.index) → ∀ (room : Nat),
        FitsIn room (JsonValue.fieldsHeight fields) (JsonValue.fieldImages fields)
          ((heap.ofJsonFields fields).1.mapM (unfoldProperty (unfoldValue later room above)))
  | [], _, heap, later, above, _, _, room => .ok []
  | (name, value) :: rest, distinct, heap, later, above, grown, around, room => by
      rw [Heap.ofJsonFields] at grown around ⊢
      have passed := Heap.extends_ofJsonFields rest (heap.ofJson value).2
      have first := fitsIn_ofJson value distinct.1 (passed.trans grown)
        (fun id outer => Nat.le_trans passed.size_le (around id outer)) room name
      have others := fitsIn_ofJsonFields rest distinct.2 grown around room
      show FitsIn room _ _ (List.mapM _ (_ :: _))
      rw [List.mapM_cons]
      exact (first.map (Prod.mk name)).pair others List.cons

end

section Bags

variable (heap : Heap) {value : JsonValue}

/-- The image of the fields is the fields with their images. -/
theorem fieldImages_eq (fields : List (String × JsonValue)) :
    JsonValue.fieldImages fields = fields.map fun field => (field.1, field.2.image) := by
  induction fields with
  | nil => rfl
  | cons field rest ih =>
      rw [JsonValue.fieldImages, ih]
      rfl

/-- What is not an object is refused at once. -/
theorem argumentProperties_ofJson_of_ne_object (other : ∀ fields, value ≠ .object fields) :
    argumentProperties (heap.ofJson value).2 (heap.ofJson value).1 =
      .error (.invalidArguments (describe (heap.ofJson value).2 (heap.ofJson value).1)) := by
  cases value with
  | object fields => exact absurd rfl (other fields)
  | array items =>
      have listed : (heap.ofJson (.array items)).2.isArray
          ⟨(heap.ofJsonItems items).2.cells.size⟩ = true := by
        simp [Heap.ofJson, Heap.alloc, Heap.isArray, Heap.cell?, Container.isArray]
      have reference : (heap.ofJson (.array items)).1 =
          .ref ⟨(heap.ofJsonItems items).2.cells.size⟩ := by
        rw [Heap.ofJson]
        rfl
      rw [reference, argumentProperties, if_pos listed]
  | null | bool flag | number x | string text =>
      rw [Heap.ofJson, argumentProperties]
      rintro id ⟨⟩

/-- The fields of an object unfold to their images, if all of them are shallow enough. -/
theorem fitsIn_unfold_ofJson {fields : List (String × JsonValue)}
    (distinct : (JsonValue.object fields).HasDistinctNames) :
    FitsIn maxNestingDepth (JsonValue.fieldsHeight fields) (JsonValue.fieldImages fields)
      (unfold (heap.ofJson (.object fields)).2 (heap.ofJson (.object fields)).1) := by
  obtain ⟨props, entries, added⟩ := Heap.ofJson_object distinct.1 heap
  have grown := Heap.Extends.refl (heap.ofJson (.object fields)).2
  rw [added] at grown ⊢
  obtain ⟨before, opened⟩ := Heap.Extends.of_alloc grown
  have read := argumentProperties_eq_ok_iff.mpr ⟨rfl, props, opened, rfl⟩
  have around : ∀ id ∈ [(⟨(heap.ofJsonFields fields).2.cells.size⟩ : ContainerId)],
      (heap.ofJsonFields fields).2.cells.size ≤ id.index := by simp
  have inside := fitsIn_ofJsonFields fields distinct.2 before around maxNestingDepth
  rw [unfold, read]
  rw [← entries] at inside
  exact inside

/-- An object converts to the images of its fields, if all of them are shallow enough. Otherwise it
is refused for its depth, perhaps under another name than unfolding reports. -/
theorem convert_ofJson_object {fields : List (String × JsonValue)}
    (distinct : (JsonValue.object fields).HasDistinctNames) :
    (JsonValue.ShallowBelow maxNestingDepth fields ∧
        ∃ graph, convert (heap.ofJson (.object fields)).2 (heap.ofJson (.object fields)).1 =
            .ok graph ∧
          graph.toVariables = fields.map fun field => (field.1, field.2.image)) ∨
      ¬ JsonValue.ShallowBelow maxNestingDepth fields ∧
        ∃ key, convert (heap.ofJson (.object fields)).2 (heap.ofJson (.object fields)).1 =
          .error (.nestingTooDeep key maxNestingDepth) := by
  have fits := fitsIn_unfold_ofJson heap distinct
  rw [← fieldImages_eq, JsonValue.shallowBelow_iff]
  by_cases low : JsonValue.fieldsHeight fields ≤ maxNestingDepth
  · rw [FitsIn, if_pos low] at fits
    rcases convert_agrees (heap.ofJson (.object fields)).2 (heap.ofJson (.object fields)).1 with
      ⟨graph, converted, unfolded⟩ | ⟨cause, other, converted, unfolded, same⟩
    · exact .inl ⟨low, graph, converted, Except.ok.inj (unfolded.symm.trans fits)⟩
    · rw [fits] at unfolded
      cases unfolded
  · rw [FitsIn, if_neg low] at fits
    obtain ⟨key, refused⟩ := fits
    rcases convert_agrees (heap.ofJson (.object fields)).2 (heap.ofJson (.object fields)).1 with
      ⟨graph, converted, unfolded⟩ | ⟨cause, other, converted, unfolded, same⟩
    · rw [refused] at unfolded
      cases unfolded
    · rw [refused] at unfolded
      obtain rfl := Except.error.inj unfolded
      cases cause with
      | nestingTooDeep name limit =>
          obtain ⟨-, rfl⟩ := Cause.nestingTooDeep.inj same
          exact .inr ⟨low, name, converted⟩
      | _ => cases same

end Bags

/-- Arguments made from JSON convert exactly if they are an object below which nothing is nested
too deep, and then into variables of the same structure. A failure says that something other than
an object was given, or else that the nesting is too deep. -/
theorem convert_ofJson (heap : Heap) {value : JsonValue} (distinct : value.HasDistinctNames) :
    ((∃ graph, convert (heap.ofJson value).2 (heap.ofJson value).1 = .ok graph) ↔
        ∃ fields, value = .object fields ∧ JsonValue.ShallowBelow maxNestingDepth fields) ∧
      (∀ graph, convert (heap.ofJson value).2 (heap.ofJson value).1 = .ok graph →
        ∃ fields, value = .object fields ∧
          graph.toVariables = fields.map fun field => (field.1, field.2.image)) ∧
      ∀ cause, convert (heap.ofJson value).2 (heap.ofJson value).1 = .error cause →
        ((∀ fields, value ≠ .object fields) ∧ ∃ payload, cause = .invalidArguments payload) ∨
          (∃ fields, value = .object fields) ∧
            ∃ key, cause = .nestingTooDeep key maxNestingDepth := by
  by_cases isObject : ∃ fields, value = .object fields
  · obtain ⟨fields, rfl⟩ := isObject
    rcases convert_ofJson_object heap distinct with
      ⟨shallow, graph, converted, images⟩ | ⟨deep, key, refused⟩
    · rw [converted]
      refine ⟨?_, ?_, ?_⟩
      · exact ⟨fun _ => ⟨fields, rfl, shallow⟩, fun _ => ⟨graph, rfl⟩⟩
      · rintro other ⟨⟩
        exact ⟨fields, rfl, images⟩
      · rintro cause ⟨⟩
    · rw [refused]
      refine ⟨?_, ?_, ?_⟩
      · constructor
        · rintro ⟨graph, ⟨⟩⟩
        · rintro ⟨others, ⟨⟩, shallow⟩
          exact absurd shallow deep
      · rintro graph ⟨⟩
      · rintro cause ⟨⟩
        exact .inr ⟨⟨fields, rfl⟩, key, rfl⟩
  · have other (fields : List (String × JsonValue)) : value ≠ .object fields := fun same =>
      isObject ⟨fields, same⟩
    have refused : convert (heap.ofJson value).2 (heap.ofJson value).1 = .error (.invalidArguments
        (describe (heap.ofJson value).2 (heap.ofJson value).1)) := by
      rw [convert, argumentProperties_ofJson_of_ne_object heap other]
      rfl
    rw [refused]
    refine ⟨?_, ?_, ?_⟩
    · constructor
      · rintro ⟨graph, ⟨⟩⟩
      · rintro ⟨fields, same, _⟩
        exact absurd same (other fields)
    · rintro graph ⟨⟩
    · rintro cause ⟨⟩
      exact .inl ⟨other, _, rfl⟩

/-- An object with a number, and with an object in a list, which holds a list in turn. -/
def orderJson : JsonValue :=
  .object [("order", .array [.object [("lines", .array []), ("note", .null)]]),
    ("count", .number (.unsigned 3)), ("paid", .bool true)]

/-- The object converts, and each variable is the image of the field of its name. -/
theorem convert_ofJson_order :
    orderJson.HasDistinctNames ∧
      (∃ graph, convert (Heap.empty.ofJson orderJson).2 (Heap.empty.ofJson orderJson).1 =
        .ok graph) ∧
      ∀ graph, convert (Heap.empty.ofJson orderJson).2 (Heap.empty.ofJson orderJson).1 =
          .ok graph →
        graph.toVariables =
          [("order", .array [.object [("lines", .array []), ("note", .null)]]),
            ("count", .number (3 : UInt64).toFloat), ("paid", .bool true)] := by
  have distinct : orderJson.HasDistinctNames := by
    simp [orderJson, JsonValue.HasDistinctNames, JsonValue.FieldsHaveDistinctNames,
      JsonValue.ItemsHaveDistinctNames]
  obtain ⟨accepts, shows, _⟩ := convert_ofJson .empty distinct
  refine ⟨distinct, accepts.mpr ⟨_, rfl, JsonValue.shallowBelow_iff.mpr (by decide)⟩, ?_⟩
  intro graph converted
  obtain ⟨fields, same, images⟩ := shows graph converted
  obtain rfl := JsonValue.object.inj same
  exact images

end Arguments

end HtmlTemplate
