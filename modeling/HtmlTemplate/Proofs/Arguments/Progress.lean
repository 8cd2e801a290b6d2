/-
# What holds while arguments are converted

A conversion carries a stack, a table of finished containers and the nodes made so far. The
invariant ties them to the plain way of unfolding: a finished container is not on the stack,
everything inside it is finished too, and its node and height say what unfolding would come
to at any place where none of these containers is being walked. A step that succeeds leaves
the stack as it was and only adds to the table and the nodes.
-/

import HtmlTemplate.Proofs.Host.Paths
import HtmlTemplate.Proofs.Arguments.Unfold

namespace HtmlTemplate.Arguments

open Host Render

variable {β γ δ : Type}

namespace Graph

/-- Add the value of a node, computed from the values before it. -/
def addValue (values : Array Value) (node : Node) : Array Value :=
  values.push (node.toValue values)

theorem values_eq_foldl (nodes : Array Node) : values nodes = nodes.toList.foldl addValue #[] := by
  rw [Array.foldl_toList]
  rfl

/-- Each node has one value. -/
theorem size_values (nodes : Array Node) : (values nodes).size = nodes.size := by
  have counted (rest : List Node) (found : Array Value) :
      (rest.foldl addValue found).size = found.size + rest.length := by
    induction rest generalizing found with
    | nil => rfl
    | cons node rest ih =>
        rw [List.foldl_cons, ih, addValue, Array.size_push, List.length_cons]
        omega
  rw [values_eq_foldl, counted, Array.length_toList, Array.size_empty, Nat.zero_add]

/-- The value of the last node is computed from the values of the others. -/
theorem values_push (nodes : Array Node) (node : Node) :
    values (nodes.push node) = (values nodes).push (node.toValue (values nodes)) := by
  simp [values]

/-- Nodes that come later do not change the value of an earlier one. -/
theorem values_append (nodes later : Array Node) (index : Nat) (before : index < nodes.size) :
    (values (nodes ++ later))[index]? = (values nodes)[index]? := by
  have kept (rest : List Node) (found : Array Value) (bound : index < found.size) :
      (rest.foldl addValue found)[index]? = found[index]? := by
    induction rest generalizing found with
    | nil => rfl
    | cons node rest ih =>
        have here : index < (addValue found node).size := by
          rw [addValue, Array.size_push]
          omega
        rw [List.foldl_cons, ih _ here, addValue, Array.getElem?_push_lt bound,
          Array.getElem?_eq_getElem bound]
  rw [values_eq_foldl, Array.toList_append, List.foldl_append, ← values_eq_foldl]
  exact kept later.toList (values nodes) (by rwa [size_values])

end Graph

/-- Everything that converting a reference can come to. -/
theorem run_convertValue_ref (heap : Heap) (room : Nat) (key : String) (id : ContainerId)
    (before : Progress) :
    (convertValue heap room key (.ref id)).run before =
      match before.converted[id]? with
      | some done =>
          if done.height ≤ room then .ok (done, before)
          else .error (.nestingTooDeep key maxNestingDepth)
      | none =>
          if id ∈ before.onStack then .error .cyclicReference
          else match room with
            | 0 => .error (.nestingTooDeep key maxNestingDepth)
            | room + 1 =>
                match heap.inspect? id with
                | none => .error (.uninspectable key)
                | some container =>
                    ((convertContainer (convertValue heap room) key container).run
                      (before.enter id)).map
                        fun ((node, height), after) => after.leave id node (height + 1) := by
  rw [convertValue, StateT.run_bind, StateT.run_get, pure_bind]
  dsimp only
  cases before.converted[id]? with
  | some done =>
      dsimp only
      split <;> rfl
  | none =>
      dsimp only
      split
      · rfl
      · cases room with
        | zero => rfl
        | succ room =>
            cases heap.inspect? id with
            | none => rfl
            | some container =>
                dsimp only
                rw [StateT.run_bind, StateT.run_set, pure_bind, StateT.run_bind]
                cases (convertContainer (convertValue heap room) key container).run
                  (before.enter id) <;> rfl

/-- The result is read off the values of the nodes, whatever nodes come later. -/
def Denotes (nodes : Array Node) (read : Array Value → β) (result : β) : Prop :=
  ∀ later, read (Graph.values (nodes ++ later)) = result

namespace Denotes

variable {nodes : Array Node} {read : Array Value → β} {result : β}

theorem append (shown : Denotes nodes read result) (more : Array Node) :
    Denotes (nodes ++ more) read result := by
  intro later
  rw [Array.append_assoc]
  exact shown _

theorem map (shown : Denotes nodes read result) (f : β → γ) :
    Denotes nodes (fun values => f (read values)) (f result) :=
  fun later => congrArg f (shown later)

/-- The reference to a new node denotes what the node does. -/
theorem push {node : Node} {tree : Value} (shown : Denotes nodes node.toValue tree) :
    Denotes (nodes.push node) (Slot.node ⟨nodes.size⟩).toValue tree := by
  intro later
  have now : node.toValue (Graph.values nodes) = tree := by simpa using shown #[]
  have here : (Graph.values (nodes.push node ++ later))[nodes.size]? = some tree := by
    rw [Graph.values_append _ _ _ (by simp), Graph.values_push, ← Graph.size_values,
      Array.getElem?_push_size, now]
  simp [Slot.toValue, here]

end Denotes

/-- The attempt comes to the result if as many containers as its height fit into the room,
and is refused as too deep if they do not. -/
def FitsIn (room height : Nat) (result : β) (attempt : Except Cause β) : Prop :=
  if height ≤ room then attempt = .ok result
  else ∃ key, attempt = .error (.nestingTooDeep key maxNestingDepth)

namespace FitsIn

variable {room height : Nat} {result : β} {attempt : Except Cause β}

theorem ok (result : β) : FitsIn room 0 result (.ok result) := by
  simp [FitsIn]

theorem map (fits : FitsIn room height result attempt) (f : β → γ) :
    FitsIn room height (f result) (do pure (f (← attempt))) := by
  unfold FitsIn at fits ⊢
  split
  · rename_i enough
    rw [if_pos enough] at fits
    rw [fits]
    rfl
  · rename_i tooHigh
    rw [if_neg tooHigh] at fits
    obtain ⟨key, refused⟩ := fits
    exact ⟨key, by rw [refused]; rfl⟩

/-- Of two attempts in a row the higher one decides. -/
theorem pair {secondHeight : Nat} {second : γ} {next : Except Cause γ}
    (fits : FitsIn room height result attempt)
    (nextFits : FitsIn room secondHeight second next) (f : β → γ → δ) :
    FitsIn room (max height secondHeight) (f result second)
      (do let a ← attempt; let b ← next; pure (f a b)) := by
  unfold FitsIn at fits nextFits ⊢
  by_cases enough : height ≤ room
  · rw [if_pos enough] at fits
    subst fits
    by_cases nextEnough : secondHeight ≤ room
    · rw [if_pos nextEnough] at nextFits
      rw [if_pos (Nat.max_le.mpr ⟨enough, nextEnough⟩), nextFits]
      rfl
    · rw [if_neg nextEnough] at nextFits
      obtain ⟨key, refused⟩ := nextFits
      rw [if_neg (by omega)]
      exact ⟨key, by rw [refused]; rfl⟩
  · rw [if_neg enough] at fits
    obtain ⟨key, refused⟩ := fits
    rw [if_neg (by omega)]
    exact ⟨key, by rw [refused]; rfl⟩

end FitsIn

/-- What has been made of the values `inside`: it denotes the result of unfolding them at any
place that none of them leads back to, and their containers are finished. -/
structure Shows (heap : Heap) (progress : Progress) (inside : List Host.Value)
    (attempt : Nat → List ContainerId → String → Except Cause β) (read : Array Value → β)
    (height : Nat) (result : β) : Prop where
  denotes : Denotes progress.nodes read result
  fits : ∀ room above key, (∀ value ∈ inside, ∀ id, heap.LeadsTo value id → id ∉ above) →
    FitsIn room height result (attempt room above key)
  finished : ∀ id, .ref id ∈ inside → id ∈ progress.converted

/-- A converted value stands for the tree that unfolding the value gives. -/
def ShowsValue (heap : Heap) (progress : Progress) (value : Host.Value) (done : Converted)
    (tree : Value) : Prop :=
  Shows heap progress [value] (fun room above key => unfoldValue heap room above key value)
    done.slot.toValue done.height tree

namespace Progress

/-- The invariant of a conversion. -/
structure Valid (heap : Heap) (progress : Progress) : Prop where
  fresh : ∀ id ∈ progress.converted, id ∉ progress.onStack
  closed : ∀ outer ∈ progress.converted, ∀ inner, heap.Holds outer inner →
    inner ∈ progress.converted
  shown : ∀ id done, progress.converted[id]? = some done →
    ∃ tree, ShowsValue heap progress (.ref id) done tree

/-- What a step that succeeds does: the stack is as before, and nothing is taken back. -/
structure Extends (before after : Progress) : Prop where
  onStack : after.onStack = before.onStack
  nodes : ∃ later, after.nodes = before.nodes ++ later
  converted : ∀ (id : ContainerId) (done : Converted),
    before.converted[id]? = some done → after.converted[id]? = some done

namespace Extends

variable {first second third : Progress}

theorem refl (progress : Progress) : progress.Extends progress where
  onStack := rfl
  nodes := ⟨#[], Array.append_empty.symm⟩
  converted _ _ found := found

theorem trans (earlier : first.Extends second) (later : second.Extends third) :
    first.Extends third where
  onStack := later.onStack.trans earlier.onStack
  nodes := by
    obtain ⟨some, before⟩ := earlier.nodes
    obtain ⟨more, after⟩ := later.nodes
    exact ⟨some ++ more, by rw [after, before, Array.append_assoc]⟩
  converted id done found := later.converted id done (earlier.converted id done found)

/-- What was finished stays finished. -/
theorem mem_converted (step : first.Extends second) {id : ContainerId}
    (finished : id ∈ first.converted) : id ∈ second.converted := by
  have found := Std.HashMap.getElem?_eq_some_getElem finished
  exact Std.HashMap.mem_iff_isSome_getElem?.mpr (by rw [step.converted _ _ found]; rfl)

end Extends

/-- What finished values lead to is finished. -/
theorem Valid.finished_of_leadsTo {heap : Heap} {progress : Progress}
    (valid : progress.Valid heap) {inside : List Host.Value}
    (finished : ∀ id, .ref id ∈ inside → id ∈ progress.converted) {value : Host.Value}
    (stored : value ∈ inside) {id : ContainerId} (leads : heap.LeadsTo value id) :
    id ∈ progress.converted := by
  obtain ⟨first, rfl, reached⟩ := leads
  induction reached with
  | refl => exact finished _ stored
  | tail _ step ih => exact valid.closed _ ih _ step

/-- Nothing is finished at the start. -/
theorem valid_start (heap : Heap) (arguments : ContainerId) :
    (start arguments).Valid heap where
  fresh id finished := absurd finished Std.HashMap.not_mem_empty
  closed outer finished := absurd finished Std.HashMap.not_mem_empty
  shown id done found := by
    rw [start, Std.HashMap.getElem?_empty] at found
    cases found

/-- A container that is not finished may be put on the stack. -/
theorem Valid.enter {heap : Heap} {progress : Progress} (valid : progress.Valid heap)
    {id : ContainerId} (unfinished : id ∉ progress.converted) :
    (progress.enter id).Valid heap where
  fresh other finished := by
    intro onStack
    obtain rfl | below := List.mem_cons.mp onStack
    · exact unfinished finished
    · exact valid.fresh other finished below
  closed := valid.closed
  shown id done found := by
    obtain ⟨tree, shows⟩ := valid.shown id done found
    exact ⟨tree, shows.denotes, shows.fits, shows.finished⟩

end Progress

namespace Shows

variable {heap : Heap} {progress after : Progress} {inside : List Host.Value}
  {attempt : Nat → List ContainerId → String → Except Cause β} {read : Array Value → β}
  {height : Nat} {result : β}

theorem mono (shows : Shows heap progress inside attempt read height result)
    (step : progress.Extends after) : Shows heap after inside attempt read height result where
  denotes := by
    obtain ⟨later, nodes⟩ := step.nodes
    rw [nodes]
    exact shows.denotes.append later
  fits := shows.fits
  finished id stored := step.mem_converted (shows.finished id stored)

theorem map (shows : Shows heap progress inside attempt read height result) (f : β → γ) :
    Shows heap progress inside (fun room above key => do pure (f (← attempt room above key)))
      (fun values => f (read values)) height (f result) where
  denotes := shows.denotes.map f
  fits room above key avoids := (shows.fits room above key avoids).map f
  finished := shows.finished

/-- The key under which values are reported has no part in what they come to. -/
theorem under (shows : Shows heap progress inside attempt read height result) (name : String) :
    Shows heap progress inside (fun room above _ => attempt room above name) read height
      result where
  denotes := shows.denotes
  fits room above _ avoids := shows.fits room above name avoids
  finished := shows.finished

/-- Values that are unfolded one after the other. -/
theorem pair {others : List Host.Value}
    {next : Nat → List ContainerId → String → Except Cause γ} {nextRead : Array Value → γ}
    {nextHeight : Nat} {second : γ}
    (shows : Shows heap progress inside attempt read height result)
    (nextShows : Shows heap progress others next nextRead nextHeight second) (f : β → γ → δ) :
    Shows heap progress (inside ++ others)
      (fun room above key => do
        let a ← attempt room above key
        let b ← next room above key
        pure (f a b))
      (fun values => f (read values) (nextRead values)) (max height nextHeight)
      (f result second) where
  denotes later := congrArg₂ f (shows.denotes later) (nextShows.denotes later)
  fits room above key avoids := by
    have left := shows.fits room above key fun value stored =>
      avoids value (List.mem_append_left _ stored)
    have right := nextShows.fits room above key fun value stored =>
      avoids value (List.mem_append_right _ stored)
    exact left.pair right f
  finished id stored := by
    obtain left | right := List.mem_append.mp stored
    · exact shows.finished id left
    · exact nextShows.finished id right

end Shows

namespace Progress

variable {heap : Heap} {before progress : Progress} {id : ContainerId} {container : Container}
  {node : Node} {height : Nat} {tree : Value}

/-- Finishing a container changes no other entry of the table. -/
theorem getElem?_leave (progress : Progress) (id other : ContainerId) (node : Node)
    (height : Nat) :
    (progress.leave id node height).2.converted[other]? =
      if id = other then some (progress.leave id node height).1
      else progress.converted[other]? := by
  simp only [Progress.leave, Std.HashMap.getElem?_insert, beq_iff_eq]

/-- Finishing a container adds nothing else to the table. -/
theorem mem_leave_iff (progress : Progress) (id other : ContainerId) (node : Node)
    (height : Nat) :
    other ∈ (progress.leave id node height).2.converted ↔
      id = other ∨ other ∈ progress.converted := by
  simp only [Progress.leave, Std.HashMap.mem_insert, beq_iff_eq]

/-- Finishing the container that was entered last restores the stack. -/
theorem onStack_leave (stack : progress.onStack = id :: before.onStack) :
    (progress.leave id node height).2.onStack = before.onStack := by
  simp only [Progress.leave, stack, List.erase_cons_head]

/-- To enter a container, walk it and finish it takes nothing back. -/
theorem Extends.leave (step : (before.enter id).Extends progress)
    (unfinished : id ∉ progress.converted) :
    before.Extends (progress.leave id node height).2 where
  onStack := onStack_leave step.onStack
  nodes := by
    obtain ⟨later, nodes⟩ := step.nodes
    refine ⟨later.push node, ?_⟩
    simp only [Progress.leave, nodes, Progress.enter, Array.append_push]
  converted other done found := by
    have kept := step.converted other done found
    have different : id ≠ other := by
      rintro rfl
      exact unfinished (Std.HashMap.mem_iff_isSome_getElem?.mpr (by rw [kept]; rfl))
    rw [getElem?_leave, if_neg different]
    exact kept

/-- The node of a container that was walked stands for the container. Nothing inside leads back to
it, for what is inside is finished and the container is not. -/
theorem Valid.showsValue_leave (valid : progress.Valid heap)
    (opened : heap.inspect? id = some container) (unfinished : id ∉ progress.converted)
    (shows : Shows heap progress container.children
      (fun room above key => unfoldContainer (unfoldValue heap room above) key container)
      node.toValue height tree) :
    ShowsValue heap (progress.leave id node (height + 1)).2 (.ref id)
      (progress.leave id node (height + 1)).1 tree where
  denotes := shows.denotes.push
  fits room above key avoids := by
    have avoidsReached (inner : ContainerId) (reached : heap.Reaches id inner) :
        inner ∉ above :=
      avoids (.ref id) (List.mem_singleton.mpr rfl) inner ⟨id, rfl, reached⟩
    have outside : id ∉ above := avoidsReached id .refl
    cases room with
    | zero => exact ⟨key, by rw [unfoldValue, if_neg outside]⟩
    | succ room =>
        have avoidsInside (child : Host.Value) (stored : child ∈ container.children)
            (inner : ContainerId) (leads : heap.LeadsTo child inner) : inner ∉ id :: above := by
          intro back
          obtain rfl | aboveIt := List.mem_cons.mp back
          · exact unfinished (valid.finished_of_leadsTo shows.finished stored leads)
          · exact avoidsReached inner (Heap.reaches_of_child opened stored leads) aboveIt
        have fits := shows.fits room (id :: above) key avoidsInside
        rw [unfoldValue_ref_of_inspect? opened outside]
        simpa only [FitsIn, Progress.leave, Nat.add_le_add_iff_right] using fits
  finished other stored := by
    obtain ⟨⟩ := List.mem_singleton.mp stored
    exact (mem_leave_iff ..).mpr (.inl rfl)

/-- Finishing a container that was walked keeps the invariant. -/
theorem Valid.leave (valid : progress.Valid heap)
    (opened : heap.inspect? id = some container)
    (stack : progress.onStack = id :: before.onStack) (unseen : id ∉ before.onStack)
    (shows : Shows heap progress container.children
      (fun room above key => unfoldContainer (unfoldValue heap room above) key container)
      node.toValue height tree) :
    (progress.leave id node (height + 1)).2.Valid heap := by
  have unfinished : id ∉ progress.converted := fun finished =>
    valid.fresh id finished (by simp [stack])
  constructor
  case fresh =>
    intro other finished
    rw [onStack_leave stack]
    obtain rfl | earlier := (mem_leave_iff ..).mp finished
    · exact unseen
    · have off := valid.fresh other earlier
      rw [stack] at off
      exact fun onStack => off (List.mem_cons_of_mem id onStack)
  case closed =>
    intro outer finished inner holds
    refine (mem_leave_iff ..).mpr (.inr ?_)
    obtain rfl | earlier := (mem_leave_iff ..).mp finished
    · exact shows.finished inner ((Heap.holds_iff_of_inspect? opened).mp holds)
    · exact valid.closed outer earlier inner holds
  case shown =>
    intro other done found
    rw [getElem?_leave] at found
    split at found
    · rename_i same
      subst same
      obtain rfl := Option.some.inj found
      exact ⟨tree, valid.showsValue_leave opened unfinished shows⟩
    · obtain ⟨otherTree, otherShows⟩ := valid.shown other done found
      refine ⟨otherTree, otherShows.denotes.append #[node], otherShows.fits, fun inner stored => ?_⟩
      exact (mem_leave_iff ..).mpr (.inr (otherShows.finished inner stored))

end Progress

end HtmlTemplate.Arguments
