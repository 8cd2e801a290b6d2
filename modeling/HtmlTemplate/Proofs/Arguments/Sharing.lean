/-
# Sharing is preserved

The graph that arguments are converted to has one node for each container below them, and
what was shared is shared in the same way: wherever a container occurs, its one node stands,
and containers with equal contents stay two. This is more than equality of the values, which
could not tell the graph from the tree that repeats every occurrence.

How often a container is walked cannot be told from the values either, so it is read off the
turns of the conversion: the walk of a container begins with the turn that enters it. From
then on the container is open or finished, hence it is never entered again, in however many
ways it is reached. The nodes bear the log out, for every container that is left becomes one.
-/

import HtmlTemplate.Proofs.Arguments.Bookkeeping
import HtmlTemplate.Proofs.Arguments.Copies
import Mathlib.Data.Set.Function

namespace HtmlTemplate.Arguments

open Host Render

namespace OpenContainer

variable {heap : Heap} {container : OpenContainer}

/-- What is left of the contents are values that the container holds. -/
def HoldsLeft (heap : Heap) (container : OpenContainer) : Prop :=
  ∀ id, .ref id ∈ container.contents.left → heap.Holds container.id id

/-- A container that was just entered holds all its contents. -/
theorem holdsLeft_ofContainer (heap : Heap) (key : String) (id : ContainerId) (height : Nat) :
    HoldsLeft heap ⟨id, .ofContainer key (heap.inspect? id), height⟩ := by
  intro inner left
  cases opened : heap.inspect? id with
  | none =>
      rw [opened] at left
      cases left
  | some stored =>
      rw [opened] at left
      apply (Heap.holds_iff_of_inspect? opened).mpr
      match stored with
      | .array _ => exact left
      | .object (.named cls) props => cases left
      | .object .plain props => exact left

/-- Nothing is put back when the container takes in what was made of the next value. -/
theorem HoldsLeft.receive {key : String} {value : Host.Value} (holds : container.HoldsLeft heap)
    (due : container.contents.due = .value key value) (done : Converted) :
    (container.receive done).HoldsLeft heap := by
  intro inner left
  apply holds inner
  rw [Contents.left_of_due due done.slot]
  exact List.mem_cons_of_mem value left

end OpenContainer

namespace Stage

/-- The container that a turn enters, if it enters one. The next stage is one level down then. -/
def entered (stage next : Stage) : List ContainerId :=
  if stage.depth < next.depth then [next.inner.id] else []

/-- The conversion of the arguments comes to this stage, and the log names the containers that were
entered on the way, in order. The arguments themselves are entered first. -/
inductive Logs (heap : Heap) (arguments : Host.Value) : List ContainerId → Stage → Prop where
  | start {root : ContainerId} {entries : List (PropertyKey × Property)}
      (read : argumentProperties heap arguments = .ok (root, entries)) :
      Logs heap arguments [root] (Stage.start root entries)
  | turn {log : List ContainerId} {stage next : Stage} (logs : Logs heap arguments log stage)
      (turns : Turns heap stage next) : Logs heap arguments (log ++ stage.entered next) next

/-- There is a log for every stage that the conversion comes to. -/
theorem Reached.exists_logs {heap : Heap} {arguments : Host.Value} {stage : Stage}
    (reached : Reached heap arguments stage) : ∃ log, Logs heap arguments log stage := by
  obtain ⟨root, entries, read, leads⟩ := reached
  induction leads with
  | refl => exact ⟨_, .start read⟩
  | tail _ turns ih =>
      obtain ⟨log, logs⟩ := ih
      exact ⟨_, logs.turn turns⟩

/-- What the log says of a stage. It names the open containers and the finished ones, each once,
and these can be reached from the arguments. All but the open ones have become nodes. -/
structure Logged (heap : Heap) (root : ContainerId) (log : List ContainerId) (stage : Stage) :
    Prop where
  sound : stage.Sound heap root
  named : ∀ id, id ∈ log ↔ id ∈ stage.progress.onStack ∨ id ∈ stage.progress.converted
  nodup : log.Nodup
  reached : ∀ id ∈ log, heap.Reaches root id
  left : ∀ container ∈ stage.inner :: stage.outer, container.HoldsLeft heap
  length : log.length = stage.progress.nodes.size + stage.progress.onStack.length

namespace Logged

variable {heap : Heap} {root id : ContainerId} {log : List ContainerId} {stage next : Stage}
  {key : String} {value : Host.Value} {node : Node}

/-- The log of the first stage names the arguments. -/
theorem start {arguments : Host.Value} {entries : List (PropertyKey × Property)}
    (read : argumentProperties heap arguments = .ok (root, entries)) :
    Logged heap root [root] (Stage.start root entries) where
  sound := .start read
  named id := by
    show id ∈ [root] ↔ id ∈ [root] ∨ id ∈ (∅ : Std.HashMap ContainerId Converted)
    rw [or_iff_left Std.HashMap.not_mem_empty]
  nodup := List.nodup_singleton root
  reached id named := List.mem_singleton.mp named ▸ .refl
  left container isInner := by
    obtain ⟨-, props, opened, rfl⟩ := argumentProperties_eq_ok_iff.mp read
    have holds := OpenContainer.holdsLeft_ofContainer heap argumentsName root 0
    rw [opened] at holds
    exact List.mem_singleton.mp isInner ▸ holds
  length := rfl

/-- It says the same when what was made of the next value is taken in. -/
theorem receive (logged : stage.Logged heap root log)
    (due : stage.inner.contents.due = .value key value) {done : Converted}
    (sound : (stage.receive done stage.progress).Sound heap root) :
    (stage.receive done stage.progress).Logged heap root log where
  sound := sound
  named := logged.named
  nodup := logged.nodup
  reached := logged.reached
  left := by
    obtain ⟨inner, outer⟩ := List.forall_mem_cons.mp logged.left
    exact List.forall_mem_cons.mpr ⟨inner.receive due done, outer⟩
  length := logged.length

/-- A container that is entered was not named before. -/
theorem enter (logged : stage.Logged heap root log)
    (due : stage.inner.contents.due = .value key (.ref id))
    (unfinished : id ∉ stage.progress.converted) (closed : id ∉ stage.progress.onStack)
    (fits : stage.depth < maxNestingDepth) :
    (stage.enter heap key id).Logged heap root (log ++ [id]) where
  sound := logged.sound.enter due unfinished closed fits
  named other := by
    show other ∈ log ++ [id] ↔ other ∈ id :: stage.progress.onStack ∨ other ∈ _
    rw [List.mem_append, List.mem_singleton, logged.named, List.mem_cons, or_comm, or_assoc]
    rfl
  nodup := by
    refine List.nodup_append.mpr ⟨logged.nodup, List.nodup_singleton id, ?_⟩
    rintro other named last isNew rfl
    obtain rfl := List.mem_singleton.mp isNew
    exact ((logged.named other).mp named).elim closed unfinished
  reached := by
    obtain ⟨inner, _⟩ := List.forall_mem_cons.mp logged.left
    have isOpen : stage.inner.id ∈ log := by
      rw [logged.named, logged.sound.onStack]
      exact .inl List.mem_cons_self
    have isLeft : .ref id ∈ stage.inner.contents.left := by
      rw [Contents.left_of_due due .null]
      exact List.mem_cons_self
    intro other named
    rcases List.mem_append.mp named with earlier | isNew
    · exact logged.reached other earlier
    · rw [List.mem_singleton.mp isNew]
      exact (logged.reached _ isOpen).tail (inner id isLeft)
  left := List.forall_mem_cons.mpr
    ⟨OpenContainer.holdsLeft_ofContainer heap key id 0, logged.left⟩
  length := by
    show (log ++ [id]).length = stage.progress.nodes.size + (stage.progress.onStack.length + 1)
    rw [List.length_append, logged.length]
    rfl

/-- A container that is left has been open, and is finished now. -/
theorem leave {around : OpenContainer} {outer : List OpenContainer}
    (logged : stage.Logged heap root log) (due : stage.inner.contents.due = .finished node)
    (inside : stage.outer = around :: outer) :
    (stage.leaveFor node around outer).Logged heap root log := by
  have sound := logged.sound.leave due inside
  have stack : stage.progress.onStack =
      stage.inner.id :: (stage.leaveFor node around outer).progress.onStack := by
    rw [logged.sound.onStack, sound.onStack, inside]
    rfl
  constructor
  case sound => exact sound
  case named =>
    intro other
    have finished : other ∈ (stage.leaveFor node around outer).progress.converted ↔
        stage.inner.id = other ∨ other ∈ stage.progress.converted := Progress.mem_leave_iff ..
    rw [logged.named, finished, stack, List.mem_cons, or_left_comm, or_assoc, eq_comm]
  case nodup => exact logged.nodup
  case reached => exact logged.reached
  case left =>
    have left := logged.left
    rw [inside] at left
    obtain ⟨_, aroundLeft, outerLeft⟩ := by simpa only [List.forall_mem_cons] using left
    have nested := logged.sound.nested
    rw [inside] at nested
    cases nested with
    | inside _ entered _ =>
        exact List.forall_mem_cons.mpr ⟨aroundLeft.receive entered _, outerLeft⟩
  case length =>
    have made : (stage.leaveFor node around outer).progress.nodes.size =
        stage.progress.nodes.size + 1 := Array.size_push ..
    rw [logged.length, made, stack, List.length_cons, Nat.add_assoc, Nat.add_comm 1]

/-- The step lemma: the log goes on with what a turn enters. -/
theorem turn (logged : stage.Logged heap root log) (turns : Turns heap stage next) :
    next.Logged heap root (log ++ stage.entered next) := by
  have sound := logged.sound.turn turns
  have none (level : next.depth ≤ stage.depth) : log ++ stage.entered next = log := by
    rw [entered, if_neg (Nat.not_lt.mpr level), List.append_nil]
  cases turnCase_of_turns turns with
  | primitive due | reuse due =>
      rw [none (Nat.le_refl _)]
      exact logged.receive due sound
  | @enter key id due unfinished closed fits =>
      have goesOn : stage.entered (stage.enter heap key id) = [id] :=
        if_pos (Nat.lt_succ_self stage.depth)
      rw [goesOn]
      exact logged.enter due unfinished closed fits
  | leave due inside =>
      rw [none (Nat.sub_le _ _)]
      exact logged.leave due inside

end Logged

section Runs

variable {heap : Heap} {root : ContainerId} {arguments : Host.Value} {log : List ContainerId}
  {stage : Stage}

/-- The run lemma: the log is right about every stage of a conversion. -/
theorem Logs.logged (logs : Logs heap (.ref root) log stage) : stage.Logged heap root log := by
  induction logs with
  | start read =>
      obtain ⟨⟨⟩, -⟩ := argumentProperties_eq_ok_iff.mp read
      exact .start read
  | turn _ turns ih => exact ih.turn turns

/-- No container is entered twice, wherever the conversion has come to. -/
theorem Logs.nodup (logs : Logs heap arguments log stage) : log.Nodup := by
  have reads : ∃ root, arguments = .ref root := by
    induction logs with
    | start read => exact ⟨_, (argumentProperties_eq_ok_iff.mp read).1⟩
    | turn _ _ ih => exact ih
  obtain ⟨root, rfl⟩ := reads
  exact logs.logged.nodup

variable {node : Node}

/-- Where the arguments were walked to their end, exactly what is below them is finished. -/
theorem Logged.below_iff_finished (logged : stage.Logged heap root log)
    (due : stage.inner.contents.due = .finished node) (outermost : stage.outer = [])
    (id : ContainerId) :
    Relation.TransGen heap.Holds root id ↔ id ∈ stage.progress.converted := by
  have stack : stage.progress.onStack = [root] := by
    have last := logged.sound.outermost
    rw [logged.sound.onStack, outermost] at last ⊢
    exact congrArg (fun id => [id]) (Option.some.inj last)
  have isRoot : stage.inner.id = root := by
    have same := logged.sound.onStack
    rw [stack, outermost] at same
    exact (List.cons.inj same).1.symm
  constructor
  · intro reached
    obtain ⟨first, holds, rest⟩ := Relation.TransGen.head'_iff.mp reached
    have finished := logged.sound.nested.sound.mem_converted due (isRoot ▸ holds)
    induction rest with
    | refl => exact finished
    | tail before held ih => exact logged.sound.closed _ (ih (.head' holds before)) _ held
  · intro finished
    have reaches := logged.reached id ((logged.named id).mpr (.inr finished))
    rcases Relation.reflTransGen_iff_eq_or_transGen.mp reaches with rfl | below
    · refine absurd ?_ (logged.sound.fresh id finished)
      rw [stack]
      exact List.mem_singleton.mpr rfl
    · exact below

end Runs

end Stage

namespace Progress

/-- The node that a finished container became. -/
def nodeOf (progress : Progress) (id : ContainerId) : NodeId :=
  match progress.converted[id]? with
  | some ⟨.node node, _⟩ => node
  | _ => ⟨0⟩

theorem Became.nodeOf_eq {progress : Progress} {id : ContainerId} {node : NodeId}
    (became : progress.Became id node) : progress.nodeOf id = node := by
  rcases became with ⟨height, found⟩
  rw [nodeOf, found]

end Progress

/-- The graph is the part of the heap below an object, container by container: the containers
there correspond one to one to the nodes, each node is a copy of its container, in which the
node of a container stands wherever the container did, and so are the bindings a copy of
the object's properties. -/
structure Mirrors (heap : Heap) (root : ContainerId) (graph : Graph)
    (node : ContainerId → NodeId) : Prop where
  oneToOne : Set.BijOn node {id | Relation.TransGen heap.Holds root id}
    {place | place.index < graph.nodes.size}
  contents : ∀ id, Relation.TransGen heap.Holds root id → ∃ container copy,
    heap.inspect? id = some container ∧ graph.nodes[(node id).index]? = some copy ∧
      CopiesContents (fun inner place => node inner = place) container copy
  bindings : ∃ props, heap.inspect? root = some (.object .plain props) ∧
    List.Forall₂ (CopiesProperty fun inner place => node inner = place) props.entries
      graph.bindings

/-- Where both invariants hold and exactly what is below the object is finished, the nodes
mirror what is below the object. -/
theorem Progress.Copied.mirrors {heap : Heap} {progress : Progress} {root : ContainerId}
    {props : Data.OrderedMap PropertyKey Property} {bindings : List (String × Slot)}
    (copied : progress.Copied heap)
    (below : ∀ id, Relation.TransGen heap.Holds root id ↔ id ∈ progress.converted)
    (opened : heap.inspect? root = some (.object .plain props))
    (copies : List.Forall₂ (CopiesProperty progress.Became) props.entries bindings) :
    Mirrors heap root ⟨progress.nodes, bindings⟩ progress.nodeOf := by
  have became (id : ContainerId) (reached : Relation.TransGen heap.Holds root id) :
      progress.Became id (progress.nodeOf id) := by
    rcases copied.total id ((below id).mp reached) with ⟨node, became⟩
    rwa [became.nodeOf_eq]
  have determined (id : ContainerId) (node : NodeId) (became : progress.Became id node) :
      progress.nodeOf id = node := became.nodeOf_eq
  constructor
  case oneToOne =>
    refine ⟨fun id reached => copied.index_lt (became id reached), ?_, ?_⟩
    · intro id reached other reachedToo same
      have too := became other reachedToo
      rw [← same] at too
      exact copied.distinct id other _ (became id reached) too
    · intro place bound
      rcases copied.onto place.index bound with ⟨id, became⟩
      exact ⟨id, (below id).mpr became.mem_converted, determined id place became⟩
  case contents =>
    intro id reached
    rcases copied.copy id _ (became id reached) with ⟨container, copy, opened, found, copies⟩
    exact ⟨container, copy, opened, found, copies.mono determined⟩
  case bindings => exact ⟨props, opened, copies.imp fun _ _ => CopiesProperty.mono determined⟩

/-- What an accepted conversion consists of. -/
theorem run_of_convert_eq_ok {heap : Heap} {arguments : Host.Value} {graph : Graph}
    (converted : convert heap arguments = .ok graph) :
    ∃ root props height after, arguments = .ref root ∧
      heap.inspect? root = some (.object .plain props) ∧
      argumentProperties heap arguments = .ok (root, props.entries) ∧
      (convertProperties (convertValue heap maxNestingDepth) props.entries).run (.start root) =
        .ok ((graph.bindings, height), after) ∧ graph.nodes = after.nodes := by
  unfold convert at converted
  cases read : argumentProperties heap arguments with
  | error cause =>
      rw [read] at converted
      cases converted
  | ok found =>
      rcases found with ⟨root, entries⟩
      rcases argumentProperties_eq_ok_iff.mp read with ⟨rfl, props, opened, rfl⟩
      rw [read] at converted
      dsimp only [bind, Except.bind] at converted
      cases run : (convertProperties (convertValue heap maxNestingDepth) props.entries).run
        (.start root) with
      | error cause =>
          rw [run] at converted
          cases converted
      | ok result =>
          rw [run] at converted
          cases converted
          exact ⟨root, props, result.1.2, result.2, rfl, opened, rfl, run, rfl⟩

open Stage in
/-- Sharing is preserved exactly. Whenever arguments are accepted, the nodes of the graph
mirror the containers below the arguments: one node for each, in every place where it
occurs. No container is entered twice on the way. When the conversion is over, each container that
can be reached was entered and no other, and every one but the arguments has become a node. -/
theorem convert_preserves_sharing {heap : Heap} {arguments : Host.Value} {graph : Graph}
    (accepted : convert heap arguments = .ok graph) :
    ∃ root, arguments = .ref root ∧ (∃ node, Mirrors heap root graph node) ∧
      (∀ log stage, Logs heap arguments log stage → log.Nodup) ∧
      ∃ log last, Logs heap arguments log last ∧ last.Yields heap graph ∧
        (∀ id, id ∈ log ↔ heap.Reaches root id) ∧ log.length = graph.nodes.size + 1 := by
  obtain ⟨root, props, height, after, rfl, opened, read, run, nodes⟩ :=
    run_of_convert_eq_ok accepted
  have leads := start_performs heap root props.entries
  rw [run] at leads
  have yields : Yields heap ⟨0, after, ⟨root, .fields graph.bindings [], max 0 height⟩, []⟩
      graph := ⟨rfl, nodes.symm, rfl⟩
  obtain ⟨log, logs⟩ := Reached.exists_logs ⟨root, _, read, leads⟩
  have logged := logs.logged
  have below := logged.below_iff_finished rfl rfl
  have stack : after.onStack = [root] := logged.sound.onStack
  refine ⟨root, rfl, ⟨after.nodeOf, ?_⟩, fun _ _ logs => logs.nodup, log, _, logs, yields,
    fun id => ?_, ?_⟩
  · rcases walk_of_convertProperties run with ⟨slots, walk, copy⟩
    have made := walk.copiesInto (convertValue_copiesInto heap maxNestingDepth)
      (Progress.valid_start heap root) (Progress.copied_start heap root)
    rw [show graph = ⟨after.nodes, graph.bindings⟩ by rw [← nodes]]
    exact made.copied.mirrors below opened (copy _ made.copies)
  · rw [logged.named, ← below id, Heap.Reaches, Relation.reflTransGen_iff_eq_or_transGen]
    exact or_congr_left (by rw [stack, List.mem_singleton])
  · rw [logged.length, nodes]
    exact congrArg (after.nodes.size + List.length ·) stack

/-- Arguments in which one list occurs twice, the second time in an object, beside another
list with the same items. -/
def sharedAndTwin : Heap where
  cells := #[
    ⟨.object .plain ⟨[(.name "first", .data (.ref ⟨1⟩)), (.name "wrapper", .data (.ref ⟨2⟩)),
      (.name "twin", .data (.ref ⟨3⟩))], by decide⟩, false⟩,
    ⟨.array [.string "x", .string "y"], false⟩,
    ⟨.object .plain ⟨[(.name "again", .data (.ref ⟨1⟩))], by decide⟩, false⟩,
    ⟨.array [.string "x", .string "y"], false⟩]

/-- They are accepted, and the two equal lists become two nodes. -/
theorem convert_preserves_sharing_twin :
    ∃ graph node, convert sharedAndTwin (.ref ⟨0⟩) = .ok graph ∧
      Mirrors sharedAndTwin ⟨0⟩ graph node ∧ node ⟨1⟩ ≠ node ⟨3⟩ ∧
      (∀ log stage, Stage.Logs sharedAndTwin (.ref ⟨0⟩) log stage → log.Nodup) ∧
      ∃ log last, Stage.Logs sharedAndTwin (.ref ⟨0⟩) log last ∧
        last.Yields sharedAndTwin graph ∧
        (∀ id, id ∈ log ↔ sharedAndTwin.Reaches ⟨0⟩ id) ∧ log.length = graph.nodes.size + 1 := by
  rcases (convert_ok_iff_unfold_ok sharedAndTwin (.ref ⟨0⟩)).mpr ⟨_, rfl⟩ with ⟨graph, accepted⟩
  rcases convert_preserves_sharing accepted with ⟨root, ⟨⟩, ⟨node, mirrors⟩, once⟩
  have below (id : ContainerId) (stored : .ref id ∈ [Value.ref ⟨1⟩, .ref ⟨2⟩, .ref ⟨3⟩]) :
      Relation.TransGen sharedAndTwin.Holds ⟨0⟩ id :=
    .single ((Heap.holds_iff_of_inspect? rfl).mpr stored)
  refine ⟨graph, node, accepted, mirrors, fun same => ?_, once⟩
  have equal := mirrors.oneToOne.injOn (below ⟨1⟩ (by simp)) (below ⟨3⟩ (by simp)) same
  cases equal

end HtmlTemplate.Arguments
