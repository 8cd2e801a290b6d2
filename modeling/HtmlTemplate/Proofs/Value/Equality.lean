/-
# Equality of values

Objects are compared from one side: they have equally many fields, and each field on the left is
found on the right under its name, with an equal value. As names are distinct, this is the same
from the other side, and the order of fields has no part in it. So equality is symmetric and
transitive. It is not reflexive, because what is not a number equals nothing; this is the only
exception. And it does not tell the zeros apart, but neither does the text of a value.
-/

import HtmlTemplate.Value.Basic
import HtmlTemplate.Proofs.Decimal.Equality
import Mathlib.Data.List.Perm.Subperm
import Mathlib.Logic.Relation

namespace HtmlTemplate.Value

/-! ## What is in a value -/

/-- Occurrence of a value in another at any depth. -/
inductive Within (inner : Value) : Value → Prop where
  | self : Within inner inner
  | item {items : List Value} {item : Value} (stored : item ∈ items) (within : Within inner item) :
      Within inner (.array items)
  | field {fields : List (String × Value)} {field : String × Value} (stored : field ∈ fields)
      (within : Within inner field.2) : Within inner (.object fields)

/-- The names of the fields are distinct in every object of the value. -/
def HasDistinctNames (value : Value) : Prop :=
  ∀ fields, Within (.object fields) value → (fields.map Prod.fst).Nodup

/-- Somewhere in the value there is a number that is none. -/
def ContainsNaN (value : Value) : Prop := ∃ x, Within (.number x) value ∧ x.isNaN = true

/-- What holds of numbers and of other single values, and goes over from items to lists and from
fields to objects, holds of every value. -/
theorem parts_induction {P : Value → Prop} (value : Value)
    (single : ∀ value, value.isComposite = false → value.number? = none → P value)
    (number : ∀ x, P (.number x))
    (array : ∀ items, (∀ item ∈ items, P item) → P (.array items))
    (object : ∀ fields, (∀ field ∈ fields, P field.2) → P (.object fields)) : P value := by
  refine @Value.rec P (fun items => ∀ item ∈ items, P item)
    (fun fields => ∀ field ∈ fields, P field.2) (fun field => P field.2)
    ?null ?bool number ?string array object ?noItem ?item ?noField ?field ?pair value
  case null => exact single _ rfl rfl
  case bool => exact fun truth => single _ rfl rfl
  case string => exact fun text => single _ rfl rfl
  case noItem => exact nofun
  case item => exact fun item rest here later => List.forall_mem_cons.mpr ⟨here, later⟩
  case noField => exact nofun
  case field => exact fun field rest here later => List.forall_mem_cons.mpr ⟨here, later⟩
  case pair => exact fun name value here => here

section Parts

variable {items : List Value} {fields : List (String × Value)} {a : Value}

/-- Names are distinct in a list if they are in its items, -/
theorem hasDistinctNames_array_iff :
    (array items).HasDistinctNames ↔ ∀ item ∈ items, item.HasDistinctNames := by
  constructor
  · exact fun distinct item stored fields within => distinct fields (.item stored within)
  · intro distinct fields within
    cases within with
    | item stored within => exact distinct _ stored fields within

/-- and in an object if its own names are, and those in the values of its fields. -/
theorem hasDistinctNames_object_iff :
    (object fields).HasDistinctNames ↔
      (fields.map Prod.fst).Nodup ∧ ∀ field ∈ fields, field.2.HasDistinctNames := by
  constructor
  · exact fun distinct => ⟨distinct fields .self,
      fun field stored others within => distinct others (.field stored within)⟩
  · rintro ⟨nodup, distinct⟩ others within
    cases within with
    | self => exact nodup
    | field stored within => exact distinct _ stored others within

theorem hasDistinctNames_of_single (single : a.isComposite = false) : a.HasDistinctNames := by
  intro fields within
  cases within <;> cases single

theorem HasDistinctNames.item (distinct : (array items).HasDistinctNames) (stored : a ∈ items) :
    a.HasDistinctNames :=
  hasDistinctNames_array_iff.mp distinct a stored

theorem HasDistinctNames.field (distinct : (object fields).HasDistinctNames)
    {field : String × Value} (stored : field ∈ fields) : field.2.HasDistinctNames :=
  (hasDistinctNames_object_iff.mp distinct).2 field stored

theorem HasDistinctNames.nodup (distinct : (object fields).HasDistinctNames) :
    (fields.map Prod.fst).Nodup :=
  (hasDistinctNames_object_iff.mp distinct).1

/-- A list contains what its items do, -/
theorem containsNaN_array_iff : (array items).ContainsNaN ↔ ∃ item ∈ items, item.ContainsNaN := by
  constructor
  · rintro ⟨x, within, nan⟩
    cases within with
    | item stored within => exact ⟨_, stored, x, within, nan⟩
  · rintro ⟨item, stored, x, within, nan⟩
    exact ⟨x, .item stored within, nan⟩

/-- and an object what the values of its fields do. -/
theorem containsNaN_object_iff :
    (object fields).ContainsNaN ↔ ∃ field ∈ fields, field.2.ContainsNaN := by
  constructor
  · rintro ⟨x, within, nan⟩
    cases within with
    | field stored within => exact ⟨_, stored, x, within, nan⟩
  · rintro ⟨field, stored, x, within, nan⟩
    exact ⟨x, .field stored within, nan⟩

end Parts

/-! ## Looking up fields -/

section Lookup

variable {fields : List (String × Value)} {name : String} {value : Value}

/-- What is found under a name is a field. -/
theorem mem_of_lookup (found : fields.lookup name = some value) : (name, value) ∈ fields := by
  obtain ⟨before, after, rfl, -⟩ := List.lookup_eq_some_iff.mp found
  simp

/-- A field is found under its name, which no other field has. -/
theorem lookup_of_mem (nodup : (fields.map Prod.fst).Nodup) (stored : (name, value) ∈ fields) :
    fields.lookup name = some value := by
  obtain ⟨before, after, rfl⟩ := List.append_of_mem stored
  apply List.lookup_eq_some_iff.mpr
  refine ⟨before, after, rfl, ?_⟩
  intro other earlier
  rw [List.map_append, List.nodup_append] at nodup
  have different := nodup.2.2 other.1 (List.mem_map_of_mem earlier) name (by simp)
  simpa using different.symm

end Lookup

/-! ## What each kind of value equals -/

/-- Single values other than numbers equal themselves only. -/
theorem equal_iff_eq {a b : Value} (single : a.isComposite = false) (other : a.number? = none) :
    a.equal b = true ↔ a = b := by
  cases a <;> cases b <;> simp_all [equal, isComposite, number?]

theorem equal_number_iff {x : Float} {b : Value} :
    (number x).equal b = true ↔ ∃ y, b = .number y ∧ (x == y) = true := by
  cases b <;> simp [equal]

/-- Lists are equal place by place. -/
theorem equalItems_iff {as bs : List Value} :
    equalItems as bs = true ↔ as.length = bs.length ∧
      ∀ i (here : i < as.length) (there : i < bs.length), as[i].equal bs[i] = true := by
  induction as generalizing bs with
  | nil => cases bs <;> simp [equalItems]
  | cons a as ih =>
      cases bs with
      | nil => simp [equalItems]
      | cons b bs =>
          simp only [equalItems, Bool.and_eq_true, ih, List.length_cons, Nat.add_right_cancel_iff]
          constructor
          · rintro ⟨first, equallyMany, each⟩
            refine ⟨equallyMany, ?_⟩
            intro i here there
            cases i with
            | zero => exact first
            | succ i => exact each i (Nat.lt_of_succ_lt_succ here) (Nat.lt_of_succ_lt_succ there)
          · rintro ⟨equallyMany, each⟩
            exact ⟨each 0 (Nat.zero_lt_succ _) (Nat.zero_lt_succ _), equallyMany,
              fun i here there => each (i + 1) (Nat.succ_lt_succ here) (Nat.succ_lt_succ there)⟩

theorem equal_array_iff {as : List Value} {b : Value} :
    (array as).equal b = true ↔ ∃ bs, b = .array bs ∧ as.length = bs.length ∧
      ∀ i (here : i < as.length) (there : i < bs.length), as[i].equal bs[i] = true := by
  cases b <;> simp [equal, equalItems_iff]

/-- The fields on the left are found on the right. -/
theorem fieldsFound_iff {as bs : List (String × Value)} :
    fieldsFound as bs = true ↔
      ∀ field ∈ as, ∃ b, bs.lookup field.1 = some b ∧ field.2.equal b = true := by
  induction as with
  | nil => simp [fieldsFound]
  | cons field as ih =>
      obtain ⟨name, a⟩ := field
      rw [fieldsFound, List.forall_mem_cons]
      cases found : bs.lookup name with
      | none => simp
      | some b => simp [ih]

theorem equal_object_iff {as : List (String × Value)} {b : Value} :
    (object as).equal b = true ↔ ∃ bs, b = .object bs ∧ as.length = bs.length ∧
      ∀ field ∈ as, ∃ b, bs.lookup field.1 = some b ∧ field.2.equal b = true := by
  cases b <;> simp [equal, fieldsFound_iff]

/-! ## A partial equivalence -/

/-- Distinct names that are found among equally many names are all of them. -/
theorem mem_names_of_found {as bs : List (String × Value)} (nodup : (as.map Prod.fst).Nodup)
    (equallyMany : as.length = bs.length)
    (found : ∀ field ∈ as, ∃ b, bs.lookup field.1 = some b ∧ field.2.equal b = true)
    {name : String} (listed : name ∈ bs.map Prod.fst) : name ∈ as.map Prod.fst := by
  have among : as.map Prod.fst ⊆ bs.map Prod.fst := by
    intro name mem
    obtain ⟨field, stored, rfl⟩ := List.mem_map.mp mem
    obtain ⟨b, there, -⟩ := found field stored
    exact List.mem_map.mpr ⟨_, mem_of_lookup there, rfl⟩
  have all := (List.subperm_of_subset nodup among).perm_of_length_le (by simp [equallyMany])
  exact all.symm.subset listed

/-- Equality is symmetric on values with distinct names, as each field on the right was compared
with the one field of its name on the left. -/
theorem equal_symm {a b : Value} (distinct : a.HasDistinctNames)
    (distinctToo : b.HasDistinctNames) (same : a.equal b = true) : b.equal a = true := by
  induction a using parts_induction generalizing b with
  | single a single other =>
      obtain rfl := (equal_iff_eq single other).mp same
      exact same
  | number x =>
      obtain ⟨y, rfl, equal⟩ := equal_number_iff.mp same
      exact equal_number_iff.mpr ⟨x, rfl, Decimal.beq_symm equal⟩
  | array as ih =>
      obtain ⟨bs, rfl, equallyMany, each⟩ := equal_array_iff.mp same
      refine equal_array_iff.mpr ⟨as, rfl, equallyMany.symm, ?_⟩
      intro i here there
      have stored := List.getElem_mem there
      exact ih _ stored (distinct.item stored) (distinctToo.item (List.getElem_mem here))
        (each i there here)
  | object as ih =>
      obtain ⟨bs, rfl, equallyMany, found⟩ := equal_object_iff.mp same
      refine equal_object_iff.mpr ⟨as, rfl, equallyMany.symm, ?_⟩
      rintro ⟨name, b⟩ stored
      have listed := mem_names_of_found distinct.nodup equallyMany found
        (List.mem_map_of_mem stored)
      obtain ⟨⟨name, a⟩, storedLeft, rfl⟩ := List.mem_map.mp listed
      obtain ⟨other, there, equal⟩ := found _ storedLeft
      obtain rfl : other = b :=
        Option.some.inj (there.symm.trans (lookup_of_mem distinctToo.nodup stored))
      exact ⟨a, lookup_of_mem distinct.nodup storedLeft,
        ih _ storedLeft (distinct.field storedLeft) (distinctToo.field stored) equal⟩

/-- Equality is transitive. -/
theorem equal_trans {a b c : Value} (same : a.equal b = true) (next : b.equal c = true) :
    a.equal c = true := by
  induction a using parts_induction generalizing b c with
  | single a single other =>
      obtain rfl := (equal_iff_eq single other).mp same
      exact next
  | number x =>
      obtain ⟨y, rfl, equal⟩ := equal_number_iff.mp same
      obtain ⟨z, rfl, further⟩ := equal_number_iff.mp next
      exact equal_number_iff.mpr ⟨z, rfl, Decimal.beq_trans equal further⟩
  | array as ih =>
      obtain ⟨bs, rfl, equallyMany, each⟩ := equal_array_iff.mp same
      obtain ⟨cs, rfl, asMany, further⟩ := equal_array_iff.mp next
      refine equal_array_iff.mpr ⟨cs, rfl, equallyMany.trans asMany, ?_⟩
      intro i here there
      have middle : i < bs.length := equallyMany ▸ here
      exact ih _ (List.getElem_mem here) (each i here middle) (further i middle there)
  | object as ih =>
      obtain ⟨bs, rfl, equallyMany, found⟩ := equal_object_iff.mp same
      obtain ⟨cs, rfl, asMany, further⟩ := equal_object_iff.mp next
      refine equal_object_iff.mpr ⟨cs, rfl, equallyMany.trans asMany, ?_⟩
      intro field stored
      obtain ⟨b, middle, equal⟩ := found field stored
      obtain ⟨c, there, equalToo⟩ := further _ (mem_of_lookup middle)
      exact ⟨c, there, ih field stored equal equalToo⟩

/-- A value equals itself exactly if every number in it is one. -/
theorem equal_self_iff {a : Value} (distinct : a.HasDistinctNames) :
    a.equal a = true ↔ ¬ a.ContainsNaN := by
  induction a using parts_induction with
  | single a single other =>
      refine iff_of_true ((equal_iff_eq single other).mpr rfl) ?_
      rintro ⟨x, within, -⟩
      cases within with
      | self => cases other
      | item | field => cases single
  | number x =>
      rw [equal, Decimal.beq_self_iff]
      constructor
      · rintro number ⟨y, within, nan⟩
        cases within
        rw [number] at nan
        cases nan
      · intro numbers
        by_contra nan
        exact numbers ⟨x, .self, by simpa using nan⟩
  | array items ih =>
      rw [containsNaN_array_iff]
      constructor
      · rintro same ⟨item, stored, nan⟩
        obtain ⟨_, ⟨⟩, -, each⟩ := equal_array_iff.mp same
        obtain ⟨i, here, rfl⟩ := List.getElem_of_mem stored
        exact (ih _ stored (distinct.item stored)).mp (each i here here) nan
      · intro numbers
        refine equal_array_iff.mpr ⟨items, rfl, rfl, ?_⟩
        intro i here there
        have stored := List.getElem_mem here
        exact (ih _ stored (distinct.item stored)).mpr fun nan => numbers ⟨_, stored, nan⟩
  | object fields ih =>
      have itself (field : String × Value) (stored : field ∈ fields) :
          fields.lookup field.1 = some field.2 := lookup_of_mem distinct.nodup stored
      rw [containsNaN_object_iff]
      constructor
      · rintro same ⟨field, stored, nan⟩
        obtain ⟨_, ⟨⟩, -, found⟩ := equal_object_iff.mp same
        obtain ⟨value, there, equal⟩ := found field stored
        obtain rfl := Option.some.inj (there.symm.trans (itself field stored))
        exact (ih field stored (distinct.field stored)).mp equal nan
      · intro numbers
        refine equal_object_iff.mpr ⟨fields, rfl, rfl, ?_⟩
        intro field stored
        exact ⟨field.2, itself field stored, (ih field stored (distinct.field stored)).mpr
          fun nan => numbers ⟨field, stored, nan⟩⟩

/-! ## The order of fields -/

/-- The second value is the first with the fields of one object in it in another order. -/
inductive Permutes : Value → Value → Prop where
  | here {fields others : List (String × Value)} (perm : fields.Perm others) :
      Permutes (.object fields) (.object others)
  | item {item other : Value} (before after : List Value) (permutes : Permutes item other) :
      Permutes (.array (before ++ item :: after)) (.array (before ++ other :: after))
  | field {value other : Value} (name : String) (before after : List (String × Value))
      (permutes : Permutes value other) :
      Permutes (.object (before ++ (name, value) :: after))
        (.object (before ++ (name, other) :: after))

/-- The second value is the first with the fields of any objects in it in other orders. -/
def Reorders : Value → Value → Prop := Relation.ReflTransGen Permutes

/-- The order of fields on the left makes no difference, -/
theorem Permutes.equal_eq {a other : Value} (permutes : a.Permutes other) (b : Value) :
    other.equal b = a.equal b := by
  induction permutes generalizing b with
  | @here fields others perm =>
      rw [Bool.eq_iff_iff, equal_object_iff, equal_object_iff]
      refine exists_congr fun bs => and_congr_right fun _ => ?_
      rw [perm.length_eq]
      exact and_congr_right fun _ => forall_congr' fun field => by rw [perm.mem_iff]
  | item before after permutes ih =>
      cases b with
      | array bs =>
          show equalItems _ bs = equalItems _ bs
          induction before generalizing bs with
          | nil => cases bs <;> simp [equalItems, ih]
          | cons first before rest => cases bs <;> simp [equalItems, rest]
      | _ => rfl
  | @field value other name before after permutes ih =>
      cases b with
      | object bs =>
          have found : fieldsFound (before ++ (name, other) :: after) bs =
              fieldsFound (before ++ (name, value) :: after) bs := by
            rw [Bool.eq_iff_iff, fieldsFound_iff, fieldsFound_iff]
            simp only [List.forall_mem_append, List.forall_mem_cons, ih]
          simp [equal, found]
      | _ => rfl

/-- and none to whether names are distinct. -/
theorem Permutes.hasDistinctNames {a other : Value} (permutes : a.Permutes other)
    (distinct : a.HasDistinctNames) : other.HasDistinctNames := by
  induction permutes with
  | here perm =>
      rw [hasDistinctNames_object_iff] at distinct ⊢
      exact ⟨(perm.map Prod.fst).nodup_iff.mp distinct.1,
        fun field stored => distinct.2 field (perm.mem_iff.mpr stored)⟩
  | item before after permutes ih =>
      rw [hasDistinctNames_array_iff, List.forall_mem_append, List.forall_mem_cons] at distinct ⊢
      exact ⟨distinct.1, ih distinct.2.1, distinct.2.2⟩
  | field name before after permutes ih =>
      rw [hasDistinctNames_object_iff, List.forall_mem_append, List.forall_mem_cons,
        List.map_append, List.map_cons] at distinct ⊢
      exact ⟨distinct.1, distinct.2.1, ih distinct.2.2.1, distinct.2.2.2⟩

namespace Reorders

variable {a b other otherToo : Value}

theorem equal_eq (reorders : a.Reorders other) (b : Value) : other.equal b = a.equal b := by
  induction reorders with
  | refl => rfl
  | tail _ step ih => rw [step.equal_eq, ih]

theorem hasDistinctNames (reorders : a.Reorders other) (distinct : a.HasDistinctNames) :
    other.HasDistinctNames := by
  induction reorders with
  | refl => exact distinct
  | tail _ step ih => exact step.hasDistinctNames ih

end Reorders

theorem equal_comm {a b : Value} (distinct : a.HasDistinctNames)
    (distinctToo : b.HasDistinctNames) : a.equal b = b.equal a := by
  rw [Bool.eq_iff_iff]
  exact ⟨equal_symm distinct distinctToo, equal_symm distinctToo distinct⟩

/-- The order of fields on either side makes no difference. -/
theorem equal_eq_of_reorders {a b other otherToo : Value} (distinct : a.HasDistinctNames)
    (distinctToo : b.HasDistinctNames) (reorders : a.Reorders other)
    (reordersToo : b.Reorders otherToo) : other.equal otherToo = a.equal b := by
  have stillDistinct := reordersToo.hasDistinctNames distinctToo
  calc other.equal otherToo = a.equal otherToo := reorders.equal_eq otherToo
    _ = otherToo.equal a := equal_comm distinct stillDistinct
    _ = b.equal a := reordersToo.equal_eq a
    _ = a.equal b := equal_comm distinctToo distinct

/-! ## The texts of equal values -/

mutual

/-- Whether objects at the same place of two values list their names in the same order. -/
def inSameOrder : Value → Value → Bool
  | .array as, .array bs => itemsInSameOrder as bs
  | .object as, .object bs => as.map Prod.fst == bs.map Prod.fst && fieldsInSameOrder as bs
  | _, _ => true

/-- Whether the objects in the items do. -/
def itemsInSameOrder : List Value → List Value → Bool
  | a :: as, b :: bs => a.inSameOrder b && itemsInSameOrder as bs
  | _, _ => true

/-- Whether the objects in the fields do. -/
def fieldsInSameOrder : List (String × Value) → List (String × Value) → Bool
  | (_, a) :: as, (_, b) :: bs => a.inSameOrder b && fieldsInSameOrder as bs
  | _, _ => true

end

/-- If this is so of items, their texts are the same, -/
theorem displayItems_eq {as bs : List Value}
    (each : ∀ a ∈ as, ∀ b ∈ bs, a.equal b = true → a.inSameOrder b = true →
      a.display = b.display)
    (same : equalItems as bs = true) (order : itemsInSameOrder as bs = true) :
    displayItems as = displayItems bs := by
  induction as generalizing bs with
  | nil =>
      cases bs with
      | nil => rfl
      | cons b bs => cases same
  | cons a as ih =>
      cases bs with
      | nil => cases same
      | cons b bs =>
          rw [equalItems, Bool.and_eq_true] at same
          rw [itemsInSameOrder, Bool.and_eq_true] at order
          rw [displayItems, displayItems,
            each a List.mem_cons_self b List.mem_cons_self same.1 order.1]
          rw [ih (fun a mem b other => each a (List.mem_cons_of_mem _ mem) b
            (List.mem_cons_of_mem _ other)) same.2 order.2]

/-- and so are those of fields under the same names: each is found at its own place. -/
theorem displayFields_eq {as bs : List (String × Value)}
    (each : ∀ a ∈ as, ∀ b ∈ bs, a.2.equal b.2 = true → a.2.inSameOrder b.2 = true →
      a.2.display = b.2.display)
    (nodup : (bs.map Prod.fst).Nodup) (names : as.map Prod.fst = bs.map Prod.fst)
    (found : ∀ field ∈ as, ∃ b, bs.lookup field.1 = some b ∧ field.2.equal b = true)
    (order : fieldsInSameOrder as bs = true) : displayFields as = displayFields bs := by
  induction as generalizing bs with
  | nil =>
      rw [List.map_nil, eq_comm, List.map_eq_nil_iff] at names
      rw [names]
  | cons field as ih =>
      obtain ⟨name, a⟩ := field
      cases bs with
      | nil => cases names
      | cons other bs =>
          obtain ⟨other, b⟩ := other
          obtain ⟨rfl, rest⟩ := List.cons.inj names
          rw [fieldsInSameOrder, Bool.and_eq_true] at order
          rw [List.map_cons, List.nodup_cons] at nodup
          rw [List.forall_mem_cons] at found
          have first : a.equal b = true := by simpa using found.1
          have later : ∀ field ∈ as,
              ∃ b, bs.lookup field.1 = some b ∧ field.2.equal b = true := by
            intro field stored
            have different : field.1 ≠ name := by
              rintro rfl
              exact nodup.1 (rest ▸ List.mem_map.mpr ⟨field, stored, rfl⟩)
            simpa [List.lookup_cons, beq_false_of_ne different] using found.2 field stored
          rw [displayFields, displayFields,
            each _ List.mem_cons_self _ List.mem_cons_self first order.1]
          rw [ih (fun a mem b other => each a (List.mem_cons_of_mem _ mem) b
            (List.mem_cons_of_mem _ other)) nodup.2 rest later order.2]

/-- Equal values whose objects list their names in the same order have the same text. -/
theorem display_eq {a b : Value} (distinct : b.HasDistinctNames) (same : a.equal b = true)
    (order : a.inSameOrder b = true) : a.display = b.display := by
  induction a using parts_induction generalizing b with
  | single a single other => rw [(equal_iff_eq single other).mp same]
  | number x =>
      obtain ⟨y, rfl, equal⟩ := equal_number_iff.mp same
      exact Decimal.formatNumber_eq_of_beq equal
  | array as ih =>
      obtain ⟨bs, rfl, equallyMany, each⟩ := equal_array_iff.mp same
      have texts := displayItems_eq (fun a stored b other => ih a stored (distinct.item other))
        (equalItems_iff.mpr ⟨equallyMany, each⟩) order
      rw [display, display, texts]
  | object as ih =>
      obtain ⟨bs, rfl, equallyMany, found⟩ := equal_object_iff.mp same
      rw [inSameOrder, Bool.and_eq_true, beq_iff_eq] at order
      have texts := displayFields_eq (fun a stored b other => ih a stored (distinct.field other))
        distinct.nodup order.1 found order.2
      rw [display, display, texts]

/-- Equality of values with distinct names is a partial equivalence that does not regard the order
of fields. A value is equal to itself exactly if every number in it is one. Equal values have the
same text if their objects list the names in the same order. -/
theorem equal_partialEquivalence :
    (∀ a b : Value, a.HasDistinctNames → b.HasDistinctNames → a.equal b = b.equal a) ∧
    (∀ a b c : Value, a.equal b = true → b.equal c = true → a.equal c = true) ∧
    (∀ a b other otherToo : Value, a.HasDistinctNames → b.HasDistinctNames →
      a.Reorders other → b.Reorders otherToo → other.equal otherToo = a.equal b) ∧
    (∀ a : Value, a.HasDistinctNames → (a.equal a = true ↔ ¬ a.ContainsNaN)) ∧
    ∀ a b : Value, a.HasDistinctNames → b.HasDistinctNames → a.equal b = true →
      a.inSameOrder b = true → a.display = b.display :=
  ⟨fun _ _ => equal_comm, fun _ _ _ => equal_trans,
    fun _ _ _ _ => equal_eq_of_reorders, fun _ => equal_self_iff,
    fun _ _ _ distinct same order => display_eq distinct same order⟩

/-- Two objects with different zeros, and one of them with its fields in another order. -/
theorem equal_partialEquivalence_zeros :
    let list := array [string "x", null]
    let plus := object [("n", number (Float.ofBits 0)), ("list", list)]
    let minus := object [("n", number (Float.ofBits 0x8000000000000000)), ("list", list)]
    let turned := object [("list", list), ("n", number (Float.ofBits 0x8000000000000000))]
    (plus.HasDistinctNames ∧ minus.HasDistinctNames ∧ minus.Reorders turned ∧
      plus.equal minus = true ∧ minus.equal turned = true ∧ plus.inSameOrder minus = true) ∧
    plus.equal minus = minus.equal plus ∧ plus.equal turned = true ∧
      turned.equal plus = minus.equal plus ∧ ¬ plus.ContainsNaN ∧
        plus.display = minus.display := by
  intro list plus minus turned
  obtain ⟨comm, trans, reordered, self, shown⟩ := equal_partialEquivalence
  have distinct (zero : Float) : (object [("n", number zero), ("list", list)]).HasDistinctNames := by
    refine hasDistinctNames_object_iff.mpr ⟨by simp, ?_⟩
    simp only [List.forall_mem_cons, List.not_mem_nil, false_imp_iff, implies_true, and_true]
    refine ⟨hasDistinctNames_of_single rfl, hasDistinctNames_array_iff.mpr ?_⟩
    simp only [List.forall_mem_cons, List.not_mem_nil, false_imp_iff, implies_true, and_true]
    exact ⟨hasDistinctNames_of_single rfl, hasDistinctNames_of_single rfl⟩
  have turns : minus.Reorders turned := .single (.here (List.Perm.swap _ _ _))
  have zeros : plus.equal minus = true := by decide +kernel
  have itself : plus.equal plus = true := by decide +kernel
  have again : minus.equal turned = true := by decide +kernel
  have order : plus.inSameOrder minus = true := by decide +kernel
  refine ⟨⟨distinct _, distinct _, turns, zeros, again, order⟩, ?_, ?_, ?_, ?_, ?_⟩
  · exact comm plus minus (distinct _) (distinct _)
  · exact trans plus minus turned zeros again
  · exact reordered minus plus turned plus (distinct _) (distinct _) turns .refl
  · exact (self plus (distinct _)).mp itself
  · exact shown plus minus (distinct _) (distinct _) zeros order

end HtmlTemplate.Value
