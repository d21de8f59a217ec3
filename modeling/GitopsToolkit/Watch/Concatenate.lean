import Mathlib.Data.List.Chain

/-!
# Concatenating the notifications of a burst

The file watcher reduces the raw notifications of one path within a debounce window to the
semantic events `Modify`, `Move` and `Delete` (`FileWatcher.concatenateEvents`). Its code is not
part of the sources we model, its test `TestEventConcatenation` is; the algorithm below is the
one the design describes: one left-to-right pass over the notifications with an output stack
and a flag for an arrival by rename that is still pending.

* `Settled`: no two neighbouring entries of the output are both `Modify` or `Delete`, so nothing
  in it can merge further; every output is settled (`settled_concatenateEvents`).
* `concatenateEvents_encodeAll`: a settled sequence, read back as the notifications that produce
  each of its entries, comes out unchanged; so the engine is idempotent
  (`concatenateEvents_idempotent`).
* Without renames, the output depends only on the last two notifications of the burst
  (`concatenateEvents_writes_deletes`). A write and then a delete report nothing, whatever came
  before: right for a file the burst created, but a file that existed before the burst and was
  written and then deleted in it is gone, and no `Delete` says so.
-/

namespace GitopsToolkit

/-- The raw notifications of a path, as `notify` reports them. -/
inductive NotifyEvent
  /-- `InCloseWrite`: content flushed. -/
  | inCloseWrite
  /-- `InDelete`: removed. -/
  | inDelete
  /-- `InMovedTo`: arrived at the path by a rename. -/
  | inMovedTo
  /-- `InMovedFrom`: departed from the path by a rename. -/
  | inMovedFrom
  deriving DecidableEq

/-- `FileEventType`: the semantic events of a path. -/
inductive FileEventType
  | modify
  | move
  | delete
  deriving DecidableEq

/-- Modelled from the spec: the merge of a new entry against the top of the output stack (the
head of the list). A write then a delete cancel out, a delete then a write are one change, a
repeated `Modify` or `Delete` is kept once, and nothing merges with a `Move`. -/
def push : List FileEventType → FileEventType → List FileEventType
  | .modify :: s, .delete => s
  | .delete :: s, .modify => .modify :: s
  | .modify :: s, .modify => .modify :: s
  | .delete :: s, .delete => .delete :: s
  | s, t => t :: s

/-- The state of the pass: the output stack, top first, and whether an arrival by rename is
pending. -/
structure ConcatState where
  stack : List FileEventType
  pendingMoveIn : Bool

/-- Modelled from the spec: a notification with no arrival pending. A departure with no arrival
before it is not classified by the design; it is read as a write, the design's default for a
notification it does not classify. -/
def ConcatState.classify (s : List FileEventType) : NotifyEvent → ConcatState
  | .inMovedTo => ⟨s, true⟩
  | .inDelete => ⟨push s .delete, false⟩
  | .inCloseWrite | .inMovedFrom => ⟨push s .modify, false⟩

/-- Modelled from the spec: one notification of the pass. A departure completes a pending
arrival into a `Move`; any other notification first resolves the pending arrival as a write. -/
def ConcatState.step : ConcatState → NotifyEvent → ConcatState
  | ⟨s, true⟩, .inMovedFrom => ⟨.move :: s, false⟩
  | ⟨s, true⟩, e => classify (push s .modify) e
  | ⟨s, false⟩, e => classify s e

/-- Modelled from the spec: the end of the burst resolves a pending arrival as a write. -/
def ConcatState.finish : ConcatState → List FileEventType
  | ⟨s, true⟩ => push s .modify
  | ⟨s, false⟩ => s

/-- Modelled from the spec: `FileWatcher.concatenateEvents`, the entries of the final stack in
the order they were pushed. -/
def concatenateEvents (events : List NotifyEvent) : List FileEventType :=
  ((events.foldl ConcatState.step ⟨[], false⟩).finish).reverse

example : concatenateEvents [.inDelete, .inCloseWrite, .inMovedTo] = [.modify] := by decide
example : concatenateEvents [.inCloseWrite, .inDelete, .inDelete] = [.delete] := by decide
example : concatenateEvents [.inCloseWrite, .inMovedTo, .inMovedFrom, .inDelete] =
    [.modify, .move, .delete] := by decide
example : concatenateEvents [.inDelete, .inCloseWrite] = [.modify] := by decide
example : concatenateEvents [.inCloseWrite, .inDelete] = [] := by decide

/-! ## Settled outputs -/

/-- Two neighbouring entries that cannot merge: one of them is a `Move`. -/
def Unmergeable (a b : FileEventType) : Prop := a = .move ∨ b = .move

/-- No two neighbouring entries can merge. -/
def Settled (l : List FileEventType) : Prop := l.Chain' Unmergeable

theorem unmergeable_symm {a b : FileEventType} (h : Unmergeable a b) : Unmergeable b a := h.symm

theorem settled_reverse {l : List FileEventType} : Settled l.reverse ↔ Settled l := by
  rw [Settled, List.chain'_reverse]
  exact ⟨fun h => h.imp fun _ _ => unmergeable_symm, fun h => h.imp fun _ _ => unmergeable_symm⟩

theorem settled_push {s : List FileEventType} (hs : Settled s) (t : FileEventType) :
    Settled (push s t) := by
  match s, t, hs with
  | .modify :: s, .delete, hs => exact hs.tail
  | .delete :: s, .modify, hs =>
    exact hs.tail.cons' fun b hb => (hs.rel_head? hb).elim (fun h => nomatch h) .inr
  | .modify :: s, .modify, hs => exact hs
  | .delete :: s, .delete, hs => exact hs
  | [], t, _ => exact List.chain'_singleton t
  | .move :: s, t, hs => exact hs.cons (.inr rfl)
  | .modify :: s, .move, hs => exact hs.cons (.inl rfl)
  | .delete :: s, .move, hs => exact hs.cons (.inl rfl)

theorem settled_classify {s : List FileEventType} (hs : Settled s) :
    ∀ e, Settled (ConcatState.classify s e).stack
  | .inMovedTo => hs
  | .inDelete | .inCloseWrite | .inMovedFrom => settled_push hs _

theorem settled_step {st : ConcatState} (hs : Settled st.stack) (e : NotifyEvent) :
    Settled (st.step e).stack := by
  obtain ⟨s, _ | _⟩ := st
  case false => exact settled_classify hs e
  case true =>
    cases e
    case inMovedFrom => exact hs.cons' fun _ _ => .inl rfl
    all_goals exact settled_classify (settled_push hs _) _

theorem settled_foldl_step (events : List NotifyEvent) {st : ConcatState} (hs : Settled st.stack) :
    Settled (events.foldl ConcatState.step st).stack := by
  induction events generalizing st with
  | nil => exact hs
  | cons e events ih => exact ih (settled_step hs e)

theorem settled_finish : ∀ {st : ConcatState}, Settled st.stack → Settled st.finish
  | ⟨_, false⟩, hs => hs
  | ⟨_, true⟩, hs => settled_push hs _

theorem settled_run (events : List NotifyEvent) :
    Settled (events.foldl ConcatState.step ⟨[], false⟩).finish :=
  settled_finish (settled_foldl_step events List.chain'_nil)

/-- **Every output is settled**: no two neighbouring entries are both `Modify` or `Delete`. -/
theorem settled_concatenateEvents (events : List NotifyEvent) :
    Settled (concatenateEvents events) :=
  settled_reverse.2 (settled_run events)

/-! ## Idempotence -/

/-- The notifications that produce an entry: a write, a delete, or an arrival by rename and
then a departure. -/
def FileEventType.encode : FileEventType → List NotifyEvent
  | .modify => [.inCloseWrite]
  | .delete => [.inDelete]
  | .move => [.inMovedTo, .inMovedFrom]

/-- A sequence of entries read back as notifications. -/
def encodeAll : List FileEventType → List NotifyEvent
  | [] => []
  | t :: l => t.encode ++ encodeAll l

theorem push_of_settled {t : FileEventType} {s : List FileEventType} (h : Settled (t :: s)) :
    push s t = t :: s := by
  match s, t, h with
  | [], _, _ => rfl
  | .move :: _, .modify, _ | .move :: _, .delete, _ | .move :: _, .move, _ => rfl
  | .modify :: _, .move, _ | .delete :: _, .move, _ => rfl
  | .modify :: _, .modify, h | .modify :: _, .delete, h | .delete :: _, .modify, h
  | .delete :: _, .delete, h => exact (List.chain'_cons.1 h).1.elim (nomatch ·) (nomatch ·)

theorem foldl_step_encode {t : FileEventType} {s : List FileEventType} (h : Settled (t :: s)) :
    t.encode.foldl ConcatState.step ⟨s, false⟩ = ⟨t :: s, false⟩ := by
  cases t <;> simp only [FileEventType.encode, List.foldl, ConcatState.step,
    ConcatState.classify, push_of_settled h]

theorem foldl_step_encodeAll (l : List FileEventType) {s : List FileEventType}
    (h : Settled (l.reverse ++ s)) :
    (encodeAll l).foldl ConcatState.step ⟨s, false⟩ = ⟨l.reverse ++ s, false⟩ := by
  induction l generalizing s with
  | nil => rfl
  | cons t l ih =>
    rw [List.reverse_cons, List.append_assoc, List.singleton_append] at h
    rw [encodeAll, List.foldl_append, foldl_step_encode (List.chain'_append.1 h).2.1, ih h,
      List.reverse_cons, List.append_assoc, List.singleton_append]

theorem concatenateEvents_encodeAll {l : List FileEventType} (h : Settled l) :
    concatenateEvents (encodeAll l) = l := by
  rw [concatenateEvents, foldl_step_encodeAll l (by rwa [List.append_nil, settled_reverse]),
    ConcatState.finish, List.append_nil, List.reverse_reverse]

/-- **Concatenation is idempotent**: its output, read back as notifications, concatenates to
itself. -/
theorem concatenateEvents_idempotent (events : List NotifyEvent) :
    concatenateEvents (encodeAll (concatenateEvents events)) = concatenateEvents events :=
  concatenateEvents_encodeAll (settled_reverse.2 (settled_run events))

/-! ## Bursts without renames -/

/-- What a burst of writes and deletes reports, read off its last two notifications (the list
is the burst reversed, last notification first): a write last is a `Modify`, a write and then a
delete cancel out, and any other delete last is a `Delete`. -/
def reportOfLast : List NotifyEvent → List FileEventType
  | [] => []
  | .inCloseWrite :: _ => [.modify]
  | .inDelete :: .inCloseWrite :: _ => []
  | _ :: _ => [.delete]

theorem step_reportOfLast {e : NotifyEvent} (he : e = .inCloseWrite ∨ e = .inDelete)
    (l : List NotifyEvent) :
    ConcatState.step ⟨reportOfLast l, false⟩ e = ⟨reportOfLast (e :: l), false⟩ := by
  rcases he with rfl | rfl <;>
    rcases l with _ | ⟨_ | _ | _ | _, _ | ⟨_ | _ | _ | _, _⟩⟩ <;> rfl

theorem foldl_step_reportOfLast {events : List NotifyEvent}
    (h : ∀ e ∈ events, e = .inCloseWrite ∨ e = .inDelete) (l : List NotifyEvent) :
    events.foldl ConcatState.step ⟨reportOfLast l, false⟩ =
      ⟨reportOfLast (events.reverse ++ l), false⟩ := by
  induction events generalizing l with
  | nil => rfl
  | cons e events ih =>
    rw [List.foldl_cons, step_reportOfLast (h e (.head _)), ih fun e' he' => h e' (.tail _ he'),
      List.reverse_cons, List.append_assoc, List.singleton_append]

theorem reverse_reportOfLast (l : List NotifyEvent) :
    (reportOfLast l).reverse = reportOfLast l := by
  unfold reportOfLast
  split <;> rfl

/-- **Without renames, a burst reports what its last two notifications say.** A burst of writes
and deletes reports a `Modify` when it ends in a write, nothing when it ends in a write and then
a delete, and a `Delete` when it ends in any other delete. -/
theorem concatenateEvents_writes_deletes {events : List NotifyEvent}
    (h : ∀ e ∈ events, e = .inCloseWrite ∨ e = .inDelete) :
    concatenateEvents events = reportOfLast events.reverse := by
  rw [concatenateEvents,
    show (⟨[], false⟩ : ConcatState) = ⟨reportOfLast [], false⟩ from rfl,
    foldl_step_reportOfLast h, List.append_nil, ConcatState.finish, reverse_reportOfLast]

theorem concatenateEvents_writes_deletes_written_then_deleted :
    (∀ e ∈ [NotifyEvent.inDelete, .inCloseWrite, .inCloseWrite, .inDelete],
        e = .inCloseWrite ∨ e = .inDelete) ∧
      concatenateEvents [.inDelete, .inCloseWrite, .inCloseWrite, .inDelete] =
        reportOfLast [NotifyEvent.inDelete, .inCloseWrite, .inCloseWrite, .inDelete].reverse ∧
      reportOfLast [NotifyEvent.inDelete, .inCloseWrite, .inCloseWrite, .inDelete].reverse = [] := by
  have h : ∀ e ∈ [NotifyEvent.inDelete, .inCloseWrite, .inCloseWrite, .inDelete],
      e = .inCloseWrite ∨ e = .inDelete := by decide
  exact ⟨h, concatenateEvents_writes_deletes h, rfl⟩

end GitopsToolkit
