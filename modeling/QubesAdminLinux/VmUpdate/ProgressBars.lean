import QubesAdminLinux.Agent.Status
import QubesAdminLinux.Lib.Dict
import QubesAdminLinux.Lib.Interleaving
import QubesAdminLinux.VmUpdate.Domain
import Mathlib.Algebra.Group.Basic

/-! # The progress display

`feeding` consumes the queue on which the workers of a batch put their messages.  It counts the final
statuses down from the number of bars, and keeps the statuses and the progress of each qube.

* **`addBar`, `feed`, `feedingLoop`** — one bar for each displayed name, one message, the loop.
* **`FeedInvariant`** — what ties the counter of the loop to the qubes still to finish.
* **`feedingLoop_spec`** — the loop consumes every interleaving of complete sequences to its end.
* **`feeding_interleaving`** — what a whole batch leaves in the display, in any order of arrival. -/

namespace QubesAdminLinux

/-- The class of the bars: the plain one, or that of the `tqdm` package. -/
inductive OutputClass
  | simpleTerminalBar
  | tqdm
  deriving DecidableEq, Repr

/-- A progress bar. -/
structure Bar (ν : Type) where
  /-- The text shown before the progress. -/
  desc : String
  /-- The progress; nothing is shown after a reset. -/
  progress : Option ν

namespace Bar

variable {ν : Type} [Zero ν] [Add ν]

/-- Forget the progress. -/
def reset (bar : Bar ν) : Bar ν := { bar with progress := none }

/-- Add to the progress. -/
def update (bar : Bar ν) (progress : ν) : Bar ν :=
  { bar with progress := some (bar.progress.getD 0 + progress) }

/-- Change the text. -/
def setDescription (bar : Bar ν) (desc : String) : Bar ν := { bar with desc := desc }

end Bar

/-- The display of a batch; `ν` is the type of percentages. -/
structure MultipleUpdateMultipleProgressBar (ν : Type) where
  /-- Whether nothing is displayed at all. -/
  dummy : Bool
  /-- The class of the bars. -/
  output : OutputClass
  /-- Whether lines of output are printed. -/
  printer : Bool
  /-- The progress of each displayed name. -/
  progresses : Dict String ν := Dict.empty
  /-- The bar of each displayed name. -/
  progressBars : Dict String (Bar ν) := Dict.empty
  /-- How many plain bars have been created, under whatever name. -/
  parentProgresses : Nat := 0
  /-- The final status of each displayed name. -/
  statuses : Dict String FinalStatus := Dict.empty
  /-- The lines printed, oldest first. -/
  printed : List String := []

/-- How the loop of `feeding` ends. -/
inductive FeedingResult (ν : Type)
  /-- It returns, and leaves some messages on the queue. -/
  | returned (bars : MultipleUpdateMultipleProgressBar ν) (rest : List (Message ν))
  /-- It raises. -/
  | raised (exc : PyException)
  /-- It waits for a message that never comes. -/
  | blocked (bars : MultipleUpdateMultipleProgressBar ν)

namespace MultipleUpdateMultipleProgressBar

variable {ν : Type} {bars : MultipleUpdateMultipleProgressBar ν} {qname : String}

/-- The display with a changed bar. -/
def setBar (bars : MultipleUpdateMultipleProgressBar ν) (qname : String) (bar : Bar ν) :
    MultipleUpdateMultipleProgressBar ν :=
  { bars with progressBars := bars.progressBars.set qname bar }

/-- The display with a stored status. -/
def storeStatus (bars : MultipleUpdateMultipleProgressBar ν) (qname : String)
    (status : FinalStatus) : MultipleUpdateMultipleProgressBar ν :=
  { bars with statuses := bars.statuses.set qname status }

/-- `self.progress_bars[qname].set_description(...)`. -/
def describe (bars : MultipleUpdateMultipleProgressBar ν) (qname statusName : String) :
    Except PyException (MultipleUpdateMultipleProgressBar ν) :=
  match bars.progressBars.get? qname with
  | none => .error (.keyError qname)
  | some bar => .ok (bars.setBar qname (bar.setDescription s!"{qname} ({statusName})"))

/-- Changing a bar that exists keeps all bars. -/
theorem isSome_setBar (h : (bars.progressBars.get? qname).isSome = true) (bar : Bar ν) (q : String) :
    ((bars.setBar qname bar).progressBars.get? q).isSome = (bars.progressBars.get? q).isSome := by
  rw [setBar, Bool.eq_iff_iff, Dict.isSome_get?_set]
  constructor
  · rintro (rfl | hq)
    · exact h
    · exact hq
  · exact Or.inr

/-- Describing a bar that exists only changes the bar. -/
theorem describe_eq (h : (bars.progressBars.get? qname).isSome = true) (statusName : String) :
    ∃ bar, bars.describe qname statusName = .ok (bars.setBar qname bar) := by
  obtain ⟨bar, hbar⟩ := Option.isSome_iff_exists.mp h
  exact ⟨bar.setDescription s!"{qname} ({statusName})", by rw [describe, hbar]⟩

/-! ## Sequences of messages -/

/-- A message that is either a line of output or a status of the qube `qname`. -/
def About (qname : String) (message : Message ν) : Prop :=
  ∀ info, message = .status info → info.qname = qname

/-- A complete sequence of messages about a qube: progress, and then one final status. -/
def Complete (qname : String) (final : FinalStatus) (sequence : List (Message ν)) : Prop :=
  ∃ progress, sequence = progress ++ [.status (.done qname final)] ∧
    ∀ message ∈ progress, message.doneStatus? = none ∧ About qname message

/-- The first message of a complete sequence is its final status, or progress before the rest. -/
theorem complete_cons {final : FinalStatus} {message : Message ν} {rest : List (Message ν)}
    (h : Complete qname final (message :: rest)) :
    (message = .status (.done qname final) ∧ rest = []) ∨
      (message.doneStatus? = none ∧ About qname message ∧ Complete qname final rest) := by
  obtain ⟨progress, hsequence, hprogress⟩ := h
  cases progress with
  | nil =>
      rw [List.nil_append, List.cons.injEq] at hsequence
      exact Or.inl hsequence
  | cons first tl =>
      rw [List.cons_append, List.cons.injEq] at hsequence
      obtain ⟨rfl, hrest⟩ := hsequence
      rw [List.forall_mem_cons] at hprogress
      exact Or.inr ⟨hprogress.1.1, hprogress.1.2, tl, hrest, hprogress.2⟩

/-- The first message of a complete sequence is about its name. -/
theorem Complete.about {final : FinalStatus} {message : Message ν} {rest : List (Message ν)}
    (h : Complete qname final (message :: rest)) : About qname message := by
  rcases complete_cons h with ⟨rfl, -⟩ | ⟨-, habout, -⟩
  · rintro info ⟨⟩
    rfl
  · exact habout

/-- A complete sequence is not empty. -/
theorem Complete.ne_nil {final : FinalStatus} {sequence : List (Message ν)}
    (h : Complete qname final sequence) : sequence ≠ [] := by
  obtain ⟨progress, rfl, -⟩ := h
  simp

/-- The names whose final status is still to come in a schedule. -/
def unfinished (names : List String) (schedule : List (String × Message ν)) : List String :=
  names.filter fun q => !(project q schedule).isEmpty

/-- A qube is unfinished while messages about it are still to come. -/
theorem mem_unfinished {names : List String} {schedule : List (String × Message ν)} {q : String} :
    q ∈ unfinished names schedule ↔ q ∈ names ∧ project q schedule ≠ [] := by
  rw [unfinished, List.mem_filter, Bool.not_eq_true', List.isEmpty_eq_false_iff]

/-- A name finishes with its last message. -/
theorem length_unfinished_cons {names : List String} (hnodup : names.Nodup) {q : String}
    (hmem : q ∈ names) {message : Message ν} {rest : List (String × Message ν)}
    (hlast : project q rest = []) :
    (unfinished names ((q, message) :: rest)).length = (unfinished names rest).length + 1 := by
  have hq : q ∈ unfinished names ((q, message) :: rest) := by
    rw [mem_unfinished, project_cons_self]
    exact ⟨hmem, List.cons_ne_nil _ _⟩
  -- `q` is the only name that leaves the list
  have herase : unfinished names rest = (unfinished names ((q, message) :: rest)).erase q := by
    rw [unfinished, unfinished, (hnodup.filter _).erase_eq_filter, List.filter_filter]
    refine List.filter_congr fun q' hq' => ?_
    by_cases h : q' = q
    · rw [h, hlast]
      simp
    · rw [project_cons_ne (Ne.symm h)]
      simp [h]
  rw [herase, List.length_erase_of_mem hq]
  have hpos := List.length_pos_of_mem hq
  omega

/-- No other message finishes a name. -/
theorem unfinished_cons {names : List String} {q : String} {message : Message ν}
    {rest : List (String × Message ν)} (hmore : project q rest ≠ []) :
    unfinished names ((q, message) :: rest) = unfinished names rest := by
  refine List.filter_congr fun q' hq' => ?_
  by_cases h : q' = q
  · rw [h, project_cons_self]
    simp [hmore]
  · rw [project_cons_ne (Ne.symm h)]

/-- What holds before each turn of the loop, when `schedule` is still to arrive: the counter is the
number of unfinished names, and every name has a bar. -/
structure FeedInvariant (names : List String) (final : String → FinalStatus)
    (schedule : List (String × Message ν)) (left : Nat)
    (bars : MultipleUpdateMultipleProgressBar ν) : Prop where
  /-- Only names send messages. -/
  sender : ∀ q, q ∉ names → project q schedule = []
  /-- What is left of a sequence is nothing or a complete sequence. -/
  sequence : ∀ q ∈ names, project q schedule = [] ∨ Complete q (final q) (project q schedule)
  /-- The counter. -/
  left : left = (unfinished names schedule).length
  /-- The bars. -/
  bar : ∀ q ∈ names, (bars.progressBars.get? q).isSome = true
  /-- The progress. -/
  percent : ∀ q ∈ names, (bars.progresses.get? q).isSome = true

/-- The sender of the first message is a name that is not finished. -/
theorem FeedInvariant.head {names : List String} {final : String → FinalStatus} {q : String}
    {message : Message ν} {rest : List (String × Message ν)} {left : Nat}
    (h : FeedInvariant names final ((q, message) :: rest) left bars) :
    q ∈ names ∧ Complete q (final q) (message :: project q rest) := by
  have hcons := project_cons_self q message rest
  have hmem : q ∈ names := by
    -- a sender that is not a name would have nothing to send
    by_contra hq
    rw [h.sender q hq] at hcons
    cases hcons
  have hcomplete := h.sequence q hmem
  rw [hcons] at hcomplete
  exact ⟨hmem, hcomplete.resolve_left (by simp)⟩

/-- As its sender is not finished, the counter is positive. -/
theorem FeedInvariant.exists_left {names : List String} {final : String → FinalStatus} {q : String}
    {message : Message ν} {rest : List (String × Message ν)} {left : Nat}
    (h : FeedInvariant names final ((q, message) :: rest) left bars) :
    q ∈ unfinished names ((q, message) :: rest) ∧ ∃ left', left = left' + 1 := by
  have hq : q ∈ unfinished names ((q, message) :: rest) := by
    rw [mem_unfinished, project_cons_self]
    exact ⟨h.head.1, List.cons_ne_nil _ _⟩
  have hpos := List.length_pos_of_mem hq
  rw [← h.left] at hpos
  exact ⟨hq, left - 1, by omega⟩

/-! ## Bars -/

section Display

variable [Zero ν]

/-- The display with a new bar. -/
def newBar (bars : MultipleUpdateMultipleProgressBar ν) (qname : String) :
    MultipleUpdateMultipleProgressBar ν :=
  { bars with
    progresses := bars.progresses.set qname 0
    progressBars := bars.progressBars.set qname ⟨s!"{qname} ({Status.pending.value})", some 0⟩
    parentProgresses :=
      if bars.output = .simpleTerminalBar then bars.parentProgresses + 1
      else bars.parentProgresses }

/-- `add_bar`; the plain bar asserts that its position is the number of plain bars so far. -/
def addBar (bars : MultipleUpdateMultipleProgressBar ν) (qname : String) :
    Except PyException (MultipleUpdateMultipleProgressBar ν) :=
  if bars.dummy then .ok bars
  else if bars.output = .simpleTerminalBar ∧ bars.progressBars.size ≠ bars.parentProgresses then
    .error (.other "")
  else .ok (bars.newBar qname)

/-- Add bars one after the other. -/
def addBars (bars : MultipleUpdateMultipleProgressBar ν) :
    List String → Except PyException (MultipleUpdateMultipleProgressBar ν)
  | [] => .ok bars
  | qname :: rest =>
      match bars.addBar qname with
      | .error exc => .error exc
      | .ok bars => bars.addBars rest

/-- The display of a batch that has got bars for `names`, and nothing else yet. -/
structure Fresh (names : List String) (bars : MultipleUpdateMultipleProgressBar ν) : Prop where
  /-- Something is displayed. -/
  shown : bars.dummy = false
  /-- The bars. -/
  barKeys : bars.progressBars.keys = names
  /-- The names with a progress. -/
  percentKeys : bars.progresses.keys = names
  /-- The progress. -/
  zero : ∀ q ∈ names, bars.progresses.get? q = some 0
  /-- No status is known. -/
  status : bars.statuses = Dict.empty
  /-- The plain bars have been counted. -/
  count : bars.output = .simpleTerminalBar → bars.parentProgresses = names.length

/-- A bar for a new name. -/
theorem Fresh.addBar {names : List String} (h : Fresh names bars) (hq : qname ∉ names) :
    ∃ bars', bars.addBar qname = .ok bars' ∧ Fresh (names ++ [qname]) bars' := by
  -- the position asserted by the plain bar is the number of names so far
  have hposition : ¬ (bars.output = .simpleTerminalBar ∧
      bars.progressBars.size ≠ bars.parentProgresses) := by
    rintro ⟨houtput, hne⟩
    rw [h.count houtput, ← Dict.length_keys, h.barKeys] at hne
    exact hne rfl
  refine ⟨bars.newBar qname, ?_, h.shown, ?_, ?_, fun q hmem => ?_, h.status, fun houtput => ?_⟩
  · rw [MultipleUpdateMultipleProgressBar.addBar, if_neg (by rw [h.shown]; decide), if_neg hposition]
  · rw [newBar, Dict.keys_set, h.barKeys, if_neg hq]
  · rw [newBar, Dict.keys_set, h.percentKeys, if_neg hq]
  · rw [newBar, Dict.get?_set]
    by_cases heq : q = qname
    · rw [if_pos heq]
    · rw [if_neg heq]
      rw [List.mem_append, List.mem_singleton, or_iff_left heq] at hmem
      exact h.zero q hmem
  · change bars.output = .simpleTerminalBar at houtput
    rw [newBar, if_pos houtput, h.count houtput, List.length_append, List.length_singleton]

/-- Bars for new and distinct names. -/
theorem Fresh.addBars {names more : List String} (h : Fresh names bars)
    (hnodup : (names ++ more).Nodup) :
    ∃ bars', bars.addBars more = .ok bars' ∧ Fresh (names ++ more) bars' := by
  induction more generalizing names bars with
  | nil => exact ⟨bars, rfl, by rwa [List.append_nil]⟩
  -- each new bar leaves a fresh display, with one name more
  | cons q rest ih =>
      have hq : q ∉ names := fun hmem =>
        (List.disjoint_of_nodup_append hnodup) hmem List.mem_cons_self
      obtain ⟨bars', hadd, hfresh⟩ := h.addBar hq
      rw [List.append_cons] at hnodup ⊢
      obtain ⟨bars'', hadds, hfresh'⟩ := ih hfresh hnodup
      exact ⟨bars'', by rw [MultipleUpdateMultipleProgressBar.addBars, hadd]; exact hadds, hfresh'⟩

/-- A new display without bars. -/
def start (ν : Type) (output : OutputClass) (printer : Bool) :
    MultipleUpdateMultipleProgressBar ν := { dummy := false, output, printer }

/-- A new display is fresh. -/
theorem fresh_start (output : OutputClass) (printer : Bool) :
    Fresh [] (start ν output printer) :=
  ⟨rfl, rfl, rfl, by simp, rfl, fun _ => rfl⟩

/-- The fresh display satisfies the loop invariant for every schedule of complete sequences. -/
theorem Fresh.feedInvariant {names : List String} {final : String → FinalStatus}
    {schedule : List (String × Message ν)} (h : Fresh names bars)
    (hsender : ∀ q, q ∉ names → project q schedule = [])
    (hcomplete : ∀ q ∈ names, Complete q (final q) (project q schedule)) :
    FeedInvariant names final schedule bars.progresses.size bars := by
  refine ⟨hsender, fun q hq => Or.inr (hcomplete q hq), ?_, fun q hq => ?_, fun q hq => ?_⟩
  · have hall : unfinished names schedule = names := by
      refine List.filter_eq_self.mpr fun q hq => ?_
      rw [Bool.not_eq_true', List.isEmpty_eq_false_iff]
      exact (hcomplete q hq).ne_nil
    rw [hall, ← Dict.length_keys, h.percentKeys]
  · rwa [← Dict.mem_keys, h.barKeys]
  · rw [h.zero q hq, Option.isSome_some]

/-! ## Feeding -/

variable [Add ν] [Sub ν]

/-- `_update`: the difference to the progress so far is added to the bar and to the progress. -/
def update (bars : MultipleUpdateMultipleProgressBar ν) (qname : String) (value : ν) :
    Except PyException (MultipleUpdateMultipleProgressBar ν) :=
  match bars.progresses.get? qname, bars.progressBars.get? qname with
  | some current, some bar =>
      .ok { bars.setBar qname (bar.update (value - current)) with
        progresses := bars.progresses.set qname (current + (value - current)) }
  | _, _ => .error (.keyError qname)

/-- The body of the loop of `feeding` for one message; the result says whether it was a DONE. -/
def feed (bars : MultipleUpdateMultipleProgressBar ν) :
    Message ν → Except PyException (MultipleUpdateMultipleProgressBar ν × Bool)
  | .line formated =>
      .ok (if bars.printer then { bars with printed := bars.printed ++ [formated.str] } else bars,
        false)
  | .status (.pending qname) =>
      match bars.describe qname Status.pending.value with
      | .error exc => .error exc
      | .ok bars => .ok (bars, false)
  | .status (.updating qname percent) =>
      match bars.describe qname Status.updating.value with
      | .error exc => .error exc
      | .ok bars =>
          match bars.update qname percent with
          | .error exc => .error exc
          | .ok bars => .ok (bars, false)
  | .status (.done qname final) =>
      match FinalStatus.ofValue? final.value with
      | none => .error (.other "")
      | some status =>
          -- the status is stored before the bar is looked up
          match (bars.storeStatus qname status).describe qname final.value with
          | .error exc => .error exc
          | .ok bars => .ok (bars, true)

/-- The loop of `feeding` while `left` names are left to finish, over what arrives on the queue. -/
def feedingLoop (bars : MultipleUpdateMultipleProgressBar ν) :
    Nat → List (Message ν) → FeedingResult ν
  | 0, queue => .returned bars queue
  -- `status_notifier.get()` waits
  | _ + 1, [] => .blocked bars
  | left + 1, message :: queue =>
      match bars.feed message with
      | .error exc => .raised exc
      | .ok (bars, finished) => bars.feedingLoop (if finished then left else left + 1) queue

/-- `feeding`. -/
def feeding (bars : MultipleUpdateMultipleProgressBar ν) (queue : List (Message ν)) :
    FeedingResult ν :=
  if bars.dummy then .returned bars queue else bars.feedingLoop bars.progresses.size queue

/-! ## One message -/

/-- The progress after a message. -/
def percentStep (percent : ν) : Message ν → ν
  | .status (.updating _ value) => percent + (value - percent)
  | _ => percent

/-- What one message does to the display: it stores the status it announces, moves the progress of
its qube, and keeps all bars. -/
structure Fed (bars bars' : MultipleUpdateMultipleProgressBar ν) (qname : String)
    (message : Message ν) : Prop where
  /-- No bar appears or disappears. -/
  bar : ∀ q, (bars'.progressBars.get? q).isSome = (bars.progressBars.get? q).isSome
  /-- The statuses. -/
  status : ∀ q, bars'.statuses.get? q
    = if q = qname then message.doneStatus?.or (bars.statuses.get? q) else bars.statuses.get? q
  /-- The progress. -/
  percent : ∀ q, bars'.progresses.get? q
    = if q = qname then (bars.progresses.get? q).map (percentStep · message)
      else bars.progresses.get? q

/-- Updating the progress of a bar that exists. -/
theorem update_eq {current : ν} (h : (bars.progressBars.get? qname).isSome = true)
    (hpercent : bars.progresses.get? qname = some current) (value : ν) :
    ∃ bar, bars.update qname value = .ok { bars.setBar qname bar with
      progresses := bars.progresses.set qname (current + (value - current)) } := by
  obtain ⟨bar, hbar⟩ := Option.isSome_iff_exists.mp h
  exact ⟨bar.update (value - current), by rw [update, hbar, hpercent]⟩

omit [Zero ν] in
/-- A message that does not move the progress. -/
theorem map_percentStep {message : Message ν} (h : ∀ percent, percentStep percent message = percent)
    (q : String) (d : Dict String ν) :
    d.get? q = if q = qname then (d.get? q).map (percentStep · message) else d.get? q := by
  have hid : (percentStep · message) = (id : ν → ν) := funext h
  rw [hid, Option.map_id, id, ite_self]

/-- A message about a displayed qube is processed without an exception. -/
theorem feed_spec {message : Message ν} (habout : About qname message)
    (hbar : (bars.progressBars.get? qname).isSome = true)
    (hpercent : (bars.progresses.get? qname).isSome = true) :
    ∃ bars', bars.feed message = .ok (bars', message.isDone) ∧ Fed bars bars' qname message := by
  cases message with
  | line formated =>
      refine ⟨_, rfl, fun q => ?_, fun q => ?_, fun q => ?_⟩
      · split <;> rfl
      · rw [apply_ite statuses, ite_self, Message.doneStatus?_line, Option.none_or, ite_self]
      · rw [apply_ite progresses, ite_self]
        exact map_percentStep (fun _ => rfl) q _
  | status info =>
      cases info with
      -- only the text of the bar changes
      | pending q =>
          obtain rfl : q = qname := habout _ rfl
          obtain ⟨bar, hdescribe⟩ := describe_eq hbar Status.pending.value
          refine ⟨bars.setBar q bar, by rw [feed, hdescribe]; rfl, isSome_setBar hbar bar,
            fun q' => ?_, fun q' => map_percentStep (fun _ => rfl) q' _⟩
          rw [Message.doneStatus?_pending, Option.none_or, ite_self]
          rfl
      -- the text first, and then the progress, which needs both dictionaries
      | updating q percent =>
          obtain rfl : q = qname := habout _ rfl
          obtain ⟨bar, hdescribe⟩ := describe_eq hbar Status.updating.value
          obtain ⟨current, hcurrent⟩ := Option.isSome_iff_exists.mp hpercent
          have hbar' : ((bars.setBar q bar).progressBars.get? q).isSome = true := by
            rw [isSome_setBar hbar, hbar]
          obtain ⟨bar', hupdate⟩ := update_eq hbar' hcurrent percent
          refine ⟨_, by rw [feed, hdescribe]; simp only [hupdate]; rfl, fun q' => ?_, fun q' => ?_,
            fun q' => ?_⟩
          · rw [← isSome_setBar hbar bar, ← isSome_setBar hbar' bar']
          · rw [Message.doneStatus?_updating, Option.none_or, ite_self]
            rfl
          · rw [Dict.get?_set]
            by_cases hq : q' = q
            · rw [if_pos hq, if_pos hq, hq, hcurrent]
              rfl
            · rw [if_neg hq, if_neg hq]
              rfl
      -- the stored status does not touch the bars
      | done q final =>
          obtain rfl : q = qname := habout _ rfl
          have hbar' : ((bars.storeStatus q final).progressBars.get? q).isSome = true := hbar
          obtain ⟨bar, hdescribe⟩ := describe_eq hbar' final.value
          refine ⟨(bars.storeStatus q final).setBar q bar,
            by rw [feed, FinalStatus.ofValue?_value]; simp only [hdescribe]; rfl,
            isSome_setBar hbar' bar, fun q' => ?_, fun q' => map_percentStep (fun _ => rfl) q' _⟩
          rw [Message.doneStatus?_done, Option.some_or]
          exact Dict.get?_set _ _ _ _

/-! ## The loop -/

/-- The progress after some messages. -/
def percentAfter (percent : ν) (sequence : List (Message ν)) : ν :=
  sequence.foldl percentStep percent

/-- What the loop makes of the display when it consumes a schedule. -/
structure Consumed (names : List String) (final : String → FinalStatus)
    (schedule : List (String × Message ν)) (bars bars' : MultipleUpdateMultipleProgressBar ν) :
    Prop where
  /-- The unfinished names get their final status. -/
  status : ∀ q, bars'.statuses.get? q
    = if q ∈ unfinished names schedule then some (final q) else bars.statuses.get? q
  /-- The progress of each name moves by its messages. -/
  percent : ∀ q, bars'.progresses.get? q
    = (bars.progresses.get? q).map (percentAfter · (project q schedule))

omit [Zero ν] in
/-- One turn of the loop: the counter goes down exactly with a final status. -/
theorem FeedInvariant.step {names : List String} (hnodup : names.Nodup)
    {final : String → FinalStatus} {q : String} {message : Message ν}
    {rest : List (String × Message ν)} {left : Nat}
    (h : FeedInvariant names final ((q, message) :: rest) (left + 1) bars)
    {bars' : MultipleUpdateMultipleProgressBar ν} (hfed : Fed bars bars' q message) :
    FeedInvariant names final rest (if message.isDone then left else left + 1) bars' := by
  obtain ⟨hmem, hcomplete⟩ := h.head
  have hrest : ∀ q', q' ≠ q → project q' ((q, message) :: rest) = project q' rest := fun q' hq' =>
    project_cons_ne (Ne.symm hq') message rest
  have hleft := h.left
  refine ⟨fun q' hq' => ?_, fun q' hq' => ?_, ?_, fun q' hq' => ?_, fun q' hq' => ?_⟩
  · rw [← hrest q' fun heq => hq' (heq ▸ hmem)]
    exact h.sender q' hq'
  · -- the sequence of the sender has lost its head, the others are as before
    by_cases heq : q' = q
    · rw [heq]
      rcases complete_cons hcomplete with ⟨-, hnil⟩ | ⟨-, -, htail⟩
      · exact Or.inl hnil
      · exact Or.inr htail
    · rw [← hrest q' heq]
      exact h.sequence q' hq'
  · -- a final status was the last message of its sender, and no other message is
    rcases complete_cons hcomplete with ⟨rfl, hnil⟩ | ⟨hdone, -, htail⟩
    · rw [length_unfinished_cons hnodup hmem hnil] at hleft
      exact Nat.succ.inj hleft
    · rw [unfinished_cons htail.ne_nil] at hleft
      rw [Message.isDone, hdone]
      exact hleft
  · rw [hfed.bar q']
    exact h.bar q' hq'
  · rw [hfed.percent q']
    split
    · rw [Option.isSome_map]
      exact h.percent q' hq'
    · exact h.percent q' hq'

/-- The loop consumes every schedule of complete sequences to its end and returns. -/
theorem feedingLoop_spec {names : List String} (hnodup : names.Nodup)
    {final : String → FinalStatus} {schedule : List (String × Message ν)} {left : Nat}
    (h : FeedInvariant names final schedule left bars) :
    ∃ bars', bars.feedingLoop left (schedule.map Prod.snd) = .returned bars' [] ∧
      Consumed names final schedule bars bars' := by
  induction schedule generalizing left bars with
  -- nothing to come: no name is unfinished, so the counter is zero
  | nil =>
      have hleft : left = 0 := by
        have hnone : unfinished names ([] : List (String × Message ν)) = [] := by
          simp [unfinished]
        rw [h.left, hnone, List.length_nil]
      subst hleft
      refine ⟨bars, rfl, fun q => ?_, fun q => ?_⟩
      · rw [if_neg fun hq => (mem_unfinished.mp hq).2 rfl]
      · simp [percentAfter]
  | cons hd tl ih =>
      obtain ⟨q, message⟩ := hd
      obtain ⟨hmem, hcomplete⟩ := h.head
      obtain ⟨hq, left', rfl⟩ := h.exists_left
      obtain ⟨bars', hfeed, hfed⟩ := feed_spec hcomplete.about (h.bar q hmem) (h.percent q hmem)
      obtain ⟨bars'', hloop, hconsumed⟩ := ih (h.step hnodup hfed)
      refine ⟨bars'', ?_, fun q' => ?_, fun q' => ?_⟩
      · rw [List.map_cons, feedingLoop, hfeed]
        exact hloop
      · rw [hconsumed.status q', hfed.status q']
        by_cases heq : q' = q
        · rw [heq, if_pos hq, if_pos rfl]
          rcases complete_cons hcomplete with ⟨rfl, hnil⟩ | ⟨-, -, htail⟩
          · -- the status just stored is not overwritten: its qube is finished
            rw [if_neg fun hq' => (mem_unfinished.mp hq').2 hnil]
            rfl
          · rw [if_pos (mem_unfinished.mpr ⟨hmem, htail.ne_nil⟩)]
        · rw [if_neg heq]
          congr 1
          rw [mem_unfinished, mem_unfinished, project_cons_ne (Ne.symm heq)]
      · rw [hconsumed.percent q', hfed.percent q']
        by_cases heq : q' = q
        · rw [if_pos heq, heq, project_cons_self, Option.map_map]
          rfl
        · rw [if_neg heq, project_cons_ne (Ne.symm heq)]

/-- The loop returns or waits for more, whatever the order of the messages is, as long as they are about
displayed names: it never looks up a missing bar. -/
theorem feedingLoop_returns_or_blocks (left : Nat) {queue : List (Message ν)}
    (hbar : ∀ info, .status info ∈ queue → (bars.progressBars.get? info.qname).isSome = true ∧
      (bars.progresses.get? info.qname).isSome = true) :
    ∃ bars' rest, bars.feedingLoop left queue = .returned bars' rest ∨
      bars.feedingLoop left queue = .blocked bars' ∧
        (queue.filterMap Message.doneStatus?).length < left := by
  induction queue generalizing left bars with
  | nil =>
      cases left with
      | zero => exact ⟨bars, [], Or.inl rfl⟩
      | succ left => exact ⟨bars, [], Or.inr ⟨rfl, Nat.succ_pos left⟩⟩
  | cons message rest ih =>
      cases left with
      | zero => exact ⟨bars, message :: rest, Or.inl rfl⟩
      | succ left =>
          -- a line of output leaves the bars alone, a status finds its bar
          have hfeed : ∃ bars', bars.feed message = .ok (bars', message.isDone) ∧ ∀ q,
              (bars'.progressBars.get? q).isSome = (bars.progressBars.get? q).isSome ∧
              (bars'.progresses.get? q).isSome = (bars.progresses.get? q).isSome := by
            cases message with
            | line formated =>
                refine ⟨_, rfl, fun q => ?_⟩
                split
                · exact ⟨rfl, rfl⟩
                · exact ⟨rfl, rfl⟩
            | status info =>
                obtain ⟨hinfo, hpercent⟩ := hbar info List.mem_cons_self
                have habout : About info.qname (.status info) := by
                  rintro info' ⟨⟩
                  rfl
                obtain ⟨bars', hfeed, hfed⟩ := feed_spec habout hinfo hpercent
                refine ⟨bars', hfeed, fun q => ⟨hfed.bar q, ?_⟩⟩
                rw [hfed.percent q]
                split
                · rw [Option.isSome_map]
                · rfl
          obtain ⟨bars', hfeed, hkeep⟩ := hfeed
          have hbar' : ∀ info, .status info ∈ rest →
              (bars'.progressBars.get? info.qname).isSome = true ∧
                (bars'.progresses.get? info.qname).isSome = true := by
            intro info hmem
            rw [(hkeep info.qname).1, (hkeep info.qname).2]
            exact hbar info (List.mem_cons_of_mem _ hmem)
          rw [feedingLoop, hfeed]
          obtain ⟨bars'', rest', hreturns | ⟨hblocked, hlt⟩⟩ :=
            ih (if message.isDone = true then left else left + 1) hbar'
          · exact ⟨bars'', rest', Or.inl hreturns⟩
          refine ⟨bars'', rest', Or.inr ⟨hblocked, ?_⟩⟩
          -- the counter loses one exactly if a final status has been taken from the queue
          rw [List.filterMap_cons]
          rw [Message.isDone] at hlt
          cases hdone : message.doneStatus? with
          | none =>
              rw [hdone] at hlt
              exact hlt
          | some final =>
              rw [hdone] at hlt
              exact Nat.succ_lt_succ hlt

/-- With enough final statuses, the loop returns: it never waits in vain. -/
theorem feedingLoop_returns {queue : List (Message ν)} {left : Nat}
    (hbar : ∀ info, .status info ∈ queue → (bars.progressBars.get? info.qname).isSome = true ∧
      (bars.progresses.get? info.qname).isSome = true)
    (hleft : left ≤ (queue.filterMap Message.doneStatus?).length) :
    ∃ bars' rest, bars.feedingLoop left queue = .returned bars' rest := by
  obtain ⟨bars', rest, hreturns | ⟨-, hlt⟩⟩ := feedingLoop_returns_or_blocks left hbar
  · exact ⟨bars', rest, hreturns⟩
  · exact absurd hleft (not_le.mpr hlt)

/-- A message counts for the loop if it is a final status. -/
theorem finished_of_feed {message : Message ν} {bars' : MultipleUpdateMultipleProgressBar ν}
    {finished : Bool} (h : bars.feed message = .ok (bars', finished)) : finished = message.isDone := by
  cases message with
  | line formated => exact (Prod.mk.inj (Except.ok.inj h)).2.symm
  | status info =>
      cases info with
      | pending q =>
          rw [feed] at h
          split at h
          · cases h
          · exact (Prod.mk.inj (Except.ok.inj h)).2.symm
      | updating q percent =>
          rw [feed] at h
          split at h
          · cases h
          · split at h
            · cases h
            · exact (Prod.mk.inj (Except.ok.inj h)).2.symm
      | done q final =>
          rw [feed] at h
          split at h
          · cases h
          · split at h
            · cases h
            · exact (Prod.mk.inj (Except.ok.inj h)).2.symm

/-- A loop that returns has got the final statuses that it waits for. -/
theorem le_of_feedingLoop_returned {left : Nat} {queue rest : List (Message ν)}
    {bars' : MultipleUpdateMultipleProgressBar ν} (h : bars.feedingLoop left queue = .returned bars' rest) :
    left ≤ (queue.filterMap Message.doneStatus?).length := by
  induction queue generalizing left bars with
  | nil =>
      cases left with
      | zero => exact Nat.zero_le _
      | succ left => cases h
  | cons message queue ih =>
      cases left with
      | zero => exact Nat.zero_le _
      | succ left =>
          rw [feedingLoop] at h
          split at h
          · cases h
          · rename_i bars₁ finished hfeed
            have hle := ih h
            rw [finished_of_feed hfeed, Message.isDone] at hle
            rw [List.filterMap_cons]
            cases hdone : message.doneStatus? with
            | none =>
                rw [hdone] at hle
                exact hle
            | some final =>
                rw [hdone] at hle
                exact Nat.succ_le_succ hle

/-! ## A whole batch -/

/-- Feeding a fresh display with an interleaving of complete sequences consumes all messages; what
is left in the display depends on the sequences only. -/
theorem Fresh.feeding {names : List String} (hnodup : names.Nodup) {final : String → FinalStatus}
    {f : String → List (Message ν)} {queue : List (Message ν)} (h : Fresh names bars)
    (hsender : ∀ q, q ∉ names → f q = []) (hcomplete : ∀ q ∈ names, Complete q (final q) (f q))
    (hqueue : Interleaving f queue) :
    ∃ bars', bars.feeding queue = .returned bars' [] ∧
      (∀ q, bars'.statuses.get? q = if q ∈ names then some (final q) else none) ∧
      ∀ q, bars'.progresses.get? q = if q ∈ names then some (percentAfter 0 (f q)) else none := by
  obtain ⟨schedule, hproject, rfl⟩ := hqueue
  -- all sequences are still to come
  have hinv : FeedInvariant names final schedule bars.progresses.size bars := by
    refine h.feedInvariant (fun q hq => ?_) fun q hq => ?_
    · rw [hproject q, hsender q hq]
    · rw [hproject q]
      exact hcomplete q hq
  obtain ⟨bars', hloop, hconsumed⟩ := feedingLoop_spec hnodup hinv
  refine ⟨bars', ?_, fun q => ?_, fun q => ?_⟩
  · rw [MultipleUpdateMultipleProgressBar.feeding, h.shown, if_neg Bool.false_ne_true, hloop]
  · rw [hconsumed.status q, h.status, Dict.get?_empty]
    congr 1
    rw [mem_unfinished, hproject q, eq_iff_iff, and_iff_left_iff_imp]
    exact fun hq => (hcomplete q hq).ne_nil
  · rw [hconsumed.percent q, hproject q]
    by_cases hq : q ∈ names
    · rw [if_pos hq, h.zero q hq]
      rfl
    · have hnone : bars.progresses.get? q = none := by
        rw [← Option.not_isSome_iff_eq_none, ← Dict.mem_keys, h.percentKeys]
        exact hq
      rw [if_neg hq, hnone]
      rfl

end Display

/-! ## Exact arithmetic -/

/-- The percentage announced by a message. -/
def percent? : Message ν → Option ν
  | .status (.updating _ percent) => some percent
  | _ => none

/-- The last percentage of a sequence, or `percent` if there is none. -/
def lastPercent (percent : ν) (sequence : List (Message ν)) : ν :=
  (sequence.filterMap percent?).getLast?.getD percent

variable [AddCommGroup ν]

/-- In exact arithmetic the differences telescope. -/
theorem percentAfter_eq (percent : ν) (sequence : List (Message ν)) :
    percentAfter percent sequence = lastPercent percent sequence := by
  induction sequence generalizing percent with
  | nil => rfl
  | cons message rest ih =>
      have hstep : percentAfter percent (message :: rest)
          = percentAfter (percentStep percent message) rest := rfl
      rw [hstep, ih, lastPercent, lastPercent, List.filterMap_cons]
      cases hmessage : percent? message with
      | none =>
          -- no percentage in the message
          have hkeep : percentStep percent message = percent := by
            cases message with
            | line formated => rfl
            | status info =>
                cases info with
                | pending q => rfl
                | updating q value => cases hmessage
                | done q final => rfl
          rw [hkeep]
      | some value =>
          -- the difference is added to what it was taken from
          have hmove : percentStep percent message = value := by
            cases message with
            | line formated => cases hmessage
            | status info =>
                cases info with
                | pending q => cases hmessage
                | updating q value' =>
                    cases hmessage
                    exact add_sub_cancel percent value
                | done q final => cases hmessage
          rw [hmove, List.getLast?_cons, Option.getD_some]

/-- Feeding is complete and independent of the order of arrival: every interleaving of complete
sequences is consumed to its end without an exception, every qube ends with its final status and its
last percentage, and two interleavings leave the same. -/
theorem feeding_interleaving {names : List String} (hnodup : names.Nodup)
    {final : String → FinalStatus} {f : String → List (Message ν)}
    (hsender : ∀ q, q ∉ names → f q = []) (hcomplete : ∀ q ∈ names, Complete q (final q) (f q))
    {queue queue' : List (Message ν)} (hqueue : Interleaving f queue)
    (hqueue' : Interleaving f queue') (output : OutputClass) (printer : Bool) :
    ∃ bars bars₁ bars₂, (start ν output printer).addBars names = .ok bars ∧
      bars.feeding queue = .returned bars₁ [] ∧ bars.feeding queue' = .returned bars₂ [] ∧
      (∀ q, bars₁.statuses.get? q = if q ∈ names then some (final q) else none) ∧
      (∀ q, bars₁.progresses.get? q = if q ∈ names then some (lastPercent 0 (f q)) else none) ∧
      ∀ q, bars₂.statuses.get? q = bars₁.statuses.get? q ∧
        bars₂.progresses.get? q = bars₁.progresses.get? q := by
  have hstart : Fresh [] (start ν output printer) := fresh_start output printer
  obtain ⟨bars, hadd, hfresh⟩ := hstart.addBars (by rwa [List.nil_append])
  rw [List.nil_append] at hfresh
  obtain ⟨bars₁, hfeed₁, hstatus₁, hpercent₁⟩ := hfresh.feeding hnodup hsender hcomplete hqueue
  obtain ⟨bars₂, hfeed₂, hstatus₂, hpercent₂⟩ := hfresh.feeding hnodup hsender hcomplete hqueue'
  refine ⟨bars, bars₁, bars₂, hadd, hfeed₁, hfeed₂, hstatus₁, fun q => ?_, fun q => ⟨?_, ?_⟩⟩
  · rw [hpercent₁ q, percentAfter_eq]
  · rw [hstatus₂ q, hstatus₁ q]
  · rw [hpercent₂ q, hpercent₁ q]

/-- The messages of two qubes in an order of arrival. -/
def twoQubes : List (String × Message ℤ) :=
  [("a", .status (.updating "a" 40)), ("b", .status (.done "b" .error)),
    ("a", .status (.done "a" .success))]

/-- The same messages in another order. -/
def twoQubes' : List (String × Message ℤ) :=
  [("b", .status (.done "b" .error)), ("a", .status (.updating "a" 40)),
    ("a", .status (.done "a" .success))]

/-- The two orders of arrival leave the same. -/
theorem feeding_interleaving_two :
    ∃ bars bars₁ bars₂, (start ℤ .tqdm false).addBars ["a", "b"] = .ok bars ∧
      bars.feeding (twoQubes.map Prod.snd) = .returned bars₁ [] ∧
      bars.feeding (twoQubes'.map Prod.snd) = .returned bars₂ [] ∧
      (∀ q, bars₁.statuses.get? q = if q ∈ ["a", "b"]
        then some (if q = "a" then .success else .error) else none) ∧
      (∀ q, bars₁.progresses.get? q = if q ∈ ["a", "b"]
        then some (lastPercent 0 (project q twoQubes)) else none) ∧
      ∀ q, bars₂.statuses.get? q = bars₁.statuses.get? q ∧
        bars₂.progresses.get? q = bars₁.progresses.get? q := by
  have hsender : ∀ q, q ∉ ["a", "b"] → project q twoQubes = [] := by
    intro q hq
    simp only [List.mem_cons, List.not_mem_nil, or_false, not_or] at hq
    simp [twoQubes, project, Ne.symm hq.1, Ne.symm hq.2]
  have hcomplete : ∀ q ∈ ["a", "b"],
      Complete q (if q = "a" then .success else .error) (project q twoQubes) := by
    intro q hq
    simp only [List.mem_cons, List.not_mem_nil, or_false] at hq
    rcases hq with rfl | rfl
    · exact ⟨[.status (.updating "a" 40)], by simp [twoQubes, project],
        by simp [About, StatusInfo.qname]⟩
    · exact ⟨[], by simp [twoQubes, project], by simp⟩
  have hsame : ∀ q, project q twoQubes' = project q twoQubes := by
    intro q
    by_cases hb : "b" = q
    · subst hb
      rfl
    · simp [twoQubes, twoQubes', project, hb]
  exact feeding_interleaving (by decide) hsender hcomplete (interleaving_of_schedule twoQubes)
    ⟨twoQubes', hsame, rfl⟩ .tqdm false

end MultipleUpdateMultipleProgressBar

end QubesAdminLinux
