import QubesAdminLinux.Lib.Threads
import QubesAdminLinux.VmUpdate.UpdateManager

/-! # The connection of the main thread

The status queue and the termination flag of a batch live in a process of their own.  The main thread talks
to it over one connection, on which its requests are answered in their order.  While `feeding` waits for the
answer to `get`, the handler of SIGINT may interrupt it, and sends its own request over the same connection;
then the handler reads the answer to `get`, and `get` reads the answer to the request of the handler.

* **`BatchMemory`, `batchMemory`** — the flag, the queue and the connection, as the workers, the signals and
  the main thread change them.
* **`BatchMemory.Accounts`** — no message gets lost unless the handler reads it.
* **`BatchMemory.Counts`** — while `get` waits, the loop is not finished.
* **`termination_of_asked`** — a signal sets the flag, or waits behind a `get` that is never answered. -/

namespace QubesAdminLinux

open Proc WorkerEvent

/-! ## The memory of a batch -/

/-- A request of the main thread to the process that keeps the queue and the flag. -/
inductive ManagerRequest
  /-- `status_notifier.get(block=True)`. -/
  | get
  /-- `termination.value = True`. -/
  | setTermination
  deriving DecidableEq, Repr

/-- What happens to a batch besides the calls of its workers. -/
inductive BatchSignal
  /-- The loop of `feeding` calls `get`. -/
  | get
  /-- The user asks for the cancellation: `signal_handler_during_feeding` interrupts the main thread. -/
  | sigint
  /-- The oldest request of the main thread is answered, and its innermost call reads the answer. -/
  | answer
  deriving DecidableEq, Repr

/-- What the workers of a batch and the main thread share. -/
structure BatchMemory where
  /-- The termination flag. -/
  termination : Bool := false
  /-- The status queue: what has been put and not been taken. -/
  queue : List (Message PyFloat) := []
  /-- The requests of the main thread that have not been answered, oldest first.  Its calls are nested:
  each but the first is made by a handler that has interrupted the one before. -/
  requests : List ManagerRequest := []
  /-- The final statuses that the loop of `feeding` waits for. -/
  left : Nat := 0
  /-- What `get` has returned to the loop. -/
  received : List (Message PyFloat) := []
  /-- What handlers have read instead. -/
  lost : List (Message PyFloat) := []

namespace BatchMemory

/-- The loop calls `get` if the main thread has no call under way, until all names are finished. -/
def get (shared : BatchMemory) : BatchMemory :=
  if shared.requests = [] ∧ shared.left ≠ 0 then { shared with requests := [.get] } else shared

/-- The handler sends its request, whatever the main thread is doing. -/
def interrupt (shared : BatchMemory) : BatchMemory :=
  { shared with requests := shared.requests ++ [.setTermination] }

/-- The answer to the oldest request. -/
def answer (shared : BatchMemory) : BatchMemory :=
  match shared.requests, shared.queue with
  | [], _ => shared
  -- read by the handler, or by a `get` that returns `None` then, and is called again
  | .setTermination :: requests, _ => { shared with termination := true, requests }
  -- `get` waits for a message
  | .get :: _, [] => shared
  | .get :: requests, message :: queue =>
      if requests = [] then
        { shared with
          requests
          queue
          received := shared.received ++ [message]
          left := if message.isDone then shared.left - 1 else shared.left }
      -- the innermost call is that of a handler
      else { shared with requests, queue, lost := shared.lost ++ [message] }

end BatchMemory

/-- Reading the flag gives its value, and putting a message appends it to the queue; everything else
that a worker calls is outside of this memory. -/
def batchMemory : Memory BatchMemory BatchSignal WorkerCall.Reply where
  allows shared
    | ⟨.readTermination, cancelled⟩ => cancelled = shared.termination
    | _ => True
  answer shared event := { shared with queue := shared.queue ++ (WorkerEvent.message? event).toList }
  receive shared
    | .get => shared.get
    | .sigint => shared.interrupt
    | .answer => shared.answer

/-- An entry of the log of a batch with `n` workers. -/
abbrev BatchLabel (n : Nat) := Label (Fin n) BatchSignal WorkerCall.Reply

/-- The messages that the workers have put. -/
def posted {n : Nat} (log : List (BatchLabel n)) : List (Message PyFloat) :=
  messages ((scheduled log).map Prod.snd)

section Posted

variable {n : Nat} {log : List (BatchLabel n)}

/-- Nothing has been put yet. -/
@[simp] theorem posted_nil : posted ([] : List (BatchLabel n)) = [] := rfl

/-- A worker puts a message or none. -/
@[simp] theorem posted_thread (i : Fin n) (event : WorkerEvent) :
    posted (.thread i event :: log) = (message? event).toList ++ posted log := by
  have hcons : scheduled (.thread i event :: log) = (i, event) :: scheduled log := rfl
  rw [posted, hcons, List.map_cons, messages_cons, posted]

/-- The main thread puts nothing. -/
@[simp] theorem posted_signal (signal : BatchSignal) :
    posted (.signal signal :: log) = posted log := rfl

end Posted

namespace BatchMemory

variable {n : Nat} {shared shared' shared'' : BatchMemory}

/-! ## Messages -/

/-- The messages for the loop: those it has got, and those on the queue. -/
def kept (shared : BatchMemory) : List (Message PyFloat) := shared.received ++ shared.queue

/-- Between two states, messages have been put; each of them, and of those before, is for the loop or has
been lost, and the former are in their order. -/
structure Accounts (shared shared' : BatchMemory) (put : List (Message PyFloat)) : Prop where
  /-- No message is duplicated or disappears. -/
  perm : (shared'.lost ++ shared'.kept).Perm (shared.lost ++ (shared.kept ++ put))
  /-- The loop gets its messages in their order. -/
  sublist : shared'.kept.Sublist (shared.kept ++ put)

/-- The messages of two parts of a run. -/
theorem Accounts.trans {put put' : List (Message PyFloat)} (h : Accounts shared shared' put)
    (h' : Accounts shared' shared'' put') : Accounts shared shared'' (put ++ put') := by
  refine ⟨h'.perm.trans ?_, h'.sublist.trans ?_⟩
  · have hboth := h.perm.append_right put'
    simpa only [List.append_assoc] using hboth
  · have hboth := h.sublist.append_right put'
    rwa [List.append_assoc] at hboth

/-- Nothing is put by the main thread. -/
theorem accounts_receive (signal : BatchSignal) :
    Accounts shared (batchMemory.receive shared signal) [] := by
  have hsame : ∀ shared' : BatchMemory, shared'.lost = shared.lost → shared'.kept = shared.kept →
      Accounts shared shared' [] := by
    intro shared' hlost hkept
    refine ⟨?_, ?_⟩
    · rw [hlost, hkept, List.append_nil]
    · rw [hkept, List.append_nil]
  cases signal with
  | get =>
      change Accounts shared shared.get []
      rw [get]
      split
      · exact hsame _ rfl rfl
      · exact hsame _ rfl rfl
  | sigint => exact hsame _ rfl rfl
  | answer =>
      change Accounts shared shared.answer []
      rw [answer]
      split
      · exact hsame _ rfl rfl
      · exact hsame _ rfl rfl
      · exact hsame _ rfl rfl
      · rename_i requests message queue _ hqueue
        split
        · -- the loop gets the first message
          refine hsame _ rfl ?_
          rw [kept, kept, hqueue, List.append_assoc]
          rfl
        · -- a handler reads it
          have hmiddle : (message :: (shared.received ++ queue)).Perm (shared.received ++ message :: queue) :=
            List.perm_middle.symm
          refine ⟨?_, ?_⟩
          · rw [kept, kept, hqueue, List.append_nil, List.append_assoc]
            exact hmiddle.append_left shared.lost
          · rw [kept, kept, hqueue, List.append_nil]
            exact (List.sublist_cons_self message queue).append_left shared.received

/-- One entry of the log. -/
theorem accounts_next (label : BatchLabel n) :
    Accounts shared (batchMemory.next shared label) (posted [label]) := by
  cases label with
  | signal signal => exact accounts_receive signal
  | thread i event =>
      rw [posted_thread, posted_nil, List.append_nil]
      have hkept : (batchMemory.next shared (.thread i event : BatchLabel n)).kept
          = shared.kept ++ (message? event).toList := by
        rw [kept, kept, List.append_assoc]
        rfl
      refine ⟨?_, ?_⟩
      · rw [hkept]
        exact List.Perm.refl _
      · rw [hkept]

/-- A whole log. -/
theorem accounts_foldl (shared : BatchMemory) (log : List (BatchLabel n)) :
    Accounts shared (log.foldl batchMemory.next shared) (posted log) := by
  induction log generalizing shared with
  | nil =>
      refine ⟨?_, ?_⟩
      · rw [posted_nil, List.append_nil]
        exact List.Perm.refl _
      · rw [posted_nil, List.append_nil]
        exact List.Sublist.refl _
  | cons label rest ih =>
      have hboth := (accounts_next label).trans (ih (batchMemory.next shared label))
      cases label with
      | thread i event =>
          rw [posted_thread, posted_nil, List.append_nil] at hboth
          rwa [posted_thread]
      | signal signal => exact hboth

/-! ## Requests -/

/-- No handler has been called: the flag is clear, only the loop may wait, and no message has been lost. -/
structure Calm (shared : BatchMemory) : Prop where
  /-- The flag is clear. -/
  clear : shared.termination = false
  /-- No handler waits. -/
  unasked : shared.requests = [] ∨ shared.requests = [.get]
  /-- No message has been lost. -/
  unlost : shared.lost = []

/-- It stays so until a signal arrives. -/
theorem Calm.next (h : shared.Calm) {label : BatchLabel n} (hlabel : label ≠ .signal .sigint) :
    (batchMemory.next shared label).Calm := by
  obtain ⟨hclear, hunasked, hunlost⟩ := h
  cases label with
  | thread i event => exact ⟨hclear, hunasked, hunlost⟩
  | signal signal =>
      cases signal with
      | sigint => exact absurd rfl hlabel
      | get =>
          change shared.get.Calm
          rw [get]
          split
          · exact ⟨hclear, Or.inr rfl, hunlost⟩
          · exact ⟨hclear, hunasked, hunlost⟩
      | answer =>
          change shared.answer.Calm
          rcases hunasked with hrequests | hrequests
          · rw [answer, hrequests]
            exact ⟨hclear, Or.inl hrequests, hunlost⟩
          · rw [answer, hrequests]
            cases hqueue : shared.queue with
            | nil => exact ⟨hclear, Or.inr hrequests, hunlost⟩
            | cons message queue =>
                dsimp only
                rw [if_pos rfl]
                exact ⟨hclear, Or.inl rfl, hunlost⟩

/-- A run without signals. -/
theorem Calm.foldl (h : shared.Calm) {log : List (BatchLabel n)} (hlog : .signal .sigint ∉ log) :
    (log.foldl batchMemory.next shared).Calm := by
  induction log generalizing shared with
  | nil => exact h
  | cons label rest ih =>
      rw [List.mem_cons, not_or] at hlog
      exact ih (h.next (Ne.symm hlog.1)) hlog.2

/-- Without signals, all messages are for the loop. -/
theorem Calm.kept_foldl (h : shared.Calm) {log : List (BatchLabel n)} (hlog : .signal .sigint ∉ log) :
    (log.foldl batchMemory.next shared).kept = shared.kept ++ posted log := by
  have haccounts := accounts_foldl shared log
  have hperm := haccounts.perm
  rw [(h.foldl hlog).unlost, h.unlost, List.nil_append, List.nil_append] at hperm
  exact haccounts.sublist.eq_of_length hperm.length_eq

/-- A handler has been called: the flag is set, or its request has not been answered yet. -/
def Asked (shared : BatchMemory) : Prop :=
  shared.termination = true ∨ .setTermination ∈ shared.requests

/-- It stays so. -/
theorem Asked.next (h : shared.Asked) (label : BatchLabel n) : (batchMemory.next shared label).Asked := by
  cases label with
  | thread i event => exact h
  | signal signal =>
      cases signal with
      | sigint => exact Or.inr (List.mem_append_right _ (List.mem_singleton_self _))
      | get =>
          change shared.get.Asked
          rw [get]
          split
          · rename_i hidle
            rcases h with hset | hwaits
            · exact Or.inl hset
            · rw [hidle.1] at hwaits
              cases hwaits
          · exact h
      | answer =>
          change shared.answer.Asked
          rw [answer]
          split
          · exact h
          · exact Or.inl rfl
          · exact h
          · rename_i requests message queue hrequests hqueue
            -- the request that is answered is that of the loop
            have hrest : shared.termination = true ∨ .setTermination ∈ requests := by
              refine h.imp_right fun hwaits => ?_
              rw [hrequests] at hwaits
              exact (List.mem_cons.mp hwaits).resolve_left (by decide)
            split
            · exact hrest
            · exact hrest

/-- A signal calls the handler. -/
theorem asked_of_mem {log : List (BatchLabel n)} (h : .signal .sigint ∈ log) :
    (log.foldl batchMemory.next shared).Asked := by
  have hkeep : ∀ (shared : BatchMemory) (log : List (BatchLabel n)), shared.Asked →
      (log.foldl batchMemory.next shared).Asked := by
    intro shared log
    induction log generalizing shared with
    | nil => exact id
    | cons label rest ih => exact fun hasked => ih _ (hasked.next label)
  obtain ⟨before, after, rfl⟩ := List.append_of_mem h
  rw [List.foldl_append, List.foldl_cons]
  exact hkeep _ after (Or.inr (List.mem_append_right _ (List.mem_singleton_self _)))

/-- The flag stays set. -/
theorem termination_next (h : shared.termination = true) (label : BatchLabel n) :
    (batchMemory.next shared label).termination = true := by
  cases label with
  | thread i event => exact h
  | signal signal =>
      cases signal with
      | sigint => exact h
      | get =>
          change shared.get.termination = true
          rw [get]
          split
          · exact h
          · exact h
      | answer =>
          change shared.answer.termination = true
          rw [answer]
          split
          · exact h
          · rfl
          · exact h
          · split
            · exact h
            · exact h

/-- Once set, the flag stays set. -/
theorem termination_foldl (h : shared.termination = true) (log : List (BatchLabel n)) :
    (log.foldl batchMemory.next shared).termination = true := by
  induction log generalizing shared with
  | nil => exact h
  | cons label rest ih => exact ih (termination_next h label)

/-! ## The end of a batch -/

/-- The counter of the loop, which waits for `total` final statuses. -/
structure Counts (total : Nat) (shared : BatchMemory) : Prop where
  /-- The loop has got the others. -/
  left : shared.left + (shared.received.filterMap Message.doneStatus?).length = total
  /-- While `get` waits, the loop is not finished. -/
  waiting : .get ∈ shared.requests → shared.left ≠ 0

/-- Every entry keeps the count. -/
theorem Counts.next {total : Nat} (h : shared.Counts total) (label : BatchLabel n) :
    (batchMemory.next shared label).Counts total := by
  obtain ⟨hleft, hwaiting⟩ := h
  cases label with
  | thread i event => exact ⟨hleft, hwaiting⟩
  | signal signal =>
      cases signal with
      | sigint =>
          refine ⟨hleft, fun hget => hwaiting ?_⟩
          rcases List.mem_append.mp hget with hget | hget
          · exact hget
          · cases List.mem_singleton.mp hget
      | get =>
          change shared.get.Counts total
          rw [get]
          split
          · rename_i hidle
            exact ⟨hleft, fun _ => hidle.2⟩
          · exact ⟨hleft, hwaiting⟩
      | answer =>
          change shared.answer.Counts total
          rw [answer]
          split
          · exact ⟨hleft, hwaiting⟩
          · rename_i requests _ hrequests
            rw [hrequests] at hwaiting
            exact ⟨hleft, fun hget => hwaiting (List.mem_cons_of_mem _ hget)⟩
          · exact ⟨hleft, hwaiting⟩
          · rename_i requests message queue hrequests hqueue
            rw [hrequests] at hwaiting
            have hpositive := hwaiting List.mem_cons_self
            split
            · -- a final status is counted
              rename_i hlast
              subst hlast
              refine ⟨?_, fun hget => absurd hget List.not_mem_nil⟩
              dsimp only
              rw [List.filterMap_append, List.length_append, Message.isDone]
              cases hdone : message.doneStatus? with
              | none => simpa [hdone] using hleft
              | some final =>
                  simp only [Option.isSome_some, if_true, List.filterMap_cons, hdone, List.filterMap_nil,
                    List.length_singleton]
                  omega
            · exact ⟨hleft, fun hget => hwaiting (List.mem_cons_of_mem _ hget)⟩

/-- So it is after a whole log. -/
theorem Counts.foldl {total : Nat} (h : shared.Counts total) (log : List (BatchLabel n)) :
    (log.foldl batchMemory.next shared).Counts total := by
  induction log generalizing shared with
  | nil => exact h
  | cons label rest ih => exact ih (h.next label)

/-- At the end of a batch, every request of a handler has been answered, unless it stands behind a `get`
for which there is no message. -/
def Settled (shared : BatchMemory) : Prop :=
  .setTermination ∈ shared.requests → .get ∈ shared.requests ∧ shared.queue = []

/-- Without signals, no handler waits. -/
theorem Calm.settled (h : shared.Calm) : shared.Settled := by
  intro hwaits
  rcases h.unasked with hrequests | hrequests
  · rw [hrequests] at hwaits
    cases hwaits
  · rw [hrequests] at hwaits
    cases List.mem_singleton.mp hwaits

/-- At the end of a batch with a signal, the flag is set, or there are not enough final statuses for the
loop. -/
theorem termination_of_asked {total : Nat} (hasked : shared.Asked) (hsettled : shared.Settled)
    (hcounts : shared.Counts total) : shared.termination = true ∨
      (shared.kept.filterMap Message.doneStatus?).length < total := by
  refine hasked.imp_right fun hwaits => ?_
  obtain ⟨hget, hqueue⟩ := hsettled hwaits
  have hpositive := hcounts.waiting hget
  have hleft := hcounts.left
  rw [kept, hqueue, List.append_nil]
  omega

end BatchMemory

end QubesAdminLinux
