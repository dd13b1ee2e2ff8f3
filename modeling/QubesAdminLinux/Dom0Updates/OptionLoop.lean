import QubesAdminLinux.Dom0Updates.Dom0Update

/-! # The loop over the command line

What one round of the loop of `qubes-dom0-update` over its arguments does, and what the loop does with
options, with package names, and with the mark between them.

* **`parseOptions_cons`** — the loop is its first round, then the rest of the loop.
* **`OptionRead`** — what a round may do; **`optionRead_of_ok`** proves it for every argument.
* **`parseOptions_append`** — options before other arguments.
* **`parseOptions_names`, `parseOptions_mark`** — package names, without the mark and after it.
* **`passedOn`** — the arguments that are passed on to the UpdateVM; **`updatevmOpts_eq`** — they are. -/

namespace QubesAdminLinux

namespace Dom0Update

variable {o o' : Options} {arg : String} {rest : List String}

/-! ## One round -/

/-- A case distinction whose cases go on alike. -/
theorem ite_eq_bind {c : Prop} [Decidable c] {x x' y y' : Except Nat Options}
    {f : Options → Except Nat Options} (hx : c → x = x'.bind f) (hy : ¬c → y = y'.bind f) :
    (if c then x else y) = (if c then x' else y').bind f := by
  by_cases h : c
  · rw [if_pos h, if_pos h, hx h]
  · rw [if_neg h, if_neg h, hy h]

/-- The loop over the arguments is its first round and the loop over the rest. -/
theorem parseOptions_cons (h : arg ≠ "--") (o : Options) (rest : List String) :
    parseOptions o (arg :: rest) = (parseOptions o [arg]).bind fun o' => parseOptions o' rest := by
  rw [parseOptions, parseOptions]
  iterate 16 refine ite_eq_bind (fun _ => rfl) fun _ => ?_
  refine ite_eq_bind (fun hmark => absurd hmark h) fun _ => ?_
  refine ite_eq_bind (fun _ => rfl) fun _ => ?_
  rfl

/-- The options that are for dom0 alone. -/
def ownOptions : List String :=
  ["--downloadonly", "--show-output", "--silent", "--just-print-progress", "--preserve-terminal", "--console",
    "--force-xen-upgrade", "--skip-boot-check"]

/-- Whether an argument is for dom0 alone. -/
def isOwn (arg : String) : Bool := ownOptions.contains arg || startsWith arg "--switch-audio-server-to"

/-- What a round of the loop may do with an argument other than the mark: pass it on to the UpdateVM unless
it is for dom0 alone, and take it as a package if it is no option. -/
structure OptionRead (o : Options) (arg : String) (o' : Options) : Prop where
  updatevm : o'.updatevmOpts = o.updatevmOpts ++ if isOwn arg then [] else [arg]
  pkgs : startsWith arg "-" = true → o'.pkgs = o.pkgs

/-- The argument is not passed on. -/
theorem optionRead_kept {o₁ : Options} (h : parseOptions o₁ [] = .ok o') (hown : isOwn arg = true)
    (hupdatevm : o₁.updatevmOpts = o.updatevmOpts) (hpkgs : o₁.pkgs = o.pkgs) :
    OptionRead o arg o' := by
  obtain rfl := Except.ok.inj h
  exact ⟨by rw [hupdatevm, if_pos hown, List.append_nil], fun _ => hpkgs⟩

/-- The argument is passed on. -/
theorem optionRead_passed {o₁ : Options} (h : parseOptions o₁ [] = .ok o') (hown : isOwn arg = false)
    (hupdatevm : o₁.updatevmOpts = o.updatevmOpts ++ [arg])
    (hpkgs : startsWith arg "-" = true → o₁.pkgs = o.pkgs) : OptionRead o arg o' := by
  obtain rfl := Except.ok.inj h
  exact ⟨by rw [hupdatevm, if_neg (by rw [hown]; exact Bool.false_ne_true)], hpkgs⟩

/-- An argument with this start is passed on. -/
theorem not_own_of_start {start : String} (hown : ownOptions.any (startsWith · start) = false)
    (haudio : startsWith start "--switch-audio-server-to" = false ∧
      startsWith "--switch-audio-server-to" start = false) (h : startsWith arg start = true) :
    isOwn arg = false := by
  rw [isOwn, Bool.or_eq_false_iff]
  constructor
  · rw [← Bool.not_eq_true, List.contains_iff_mem]
    intro hmem
    rw [List.any_eq_false] at hown
    exact hown arg hmem h
  · rw [← Bool.not_eq_true]
    intro hswitch
    -- of two starts of a text, one is the start of the other
    rcases List.prefix_or_prefix_of_prefix (List.isPrefixOf_iff_prefix.mp h)
      (List.isPrefixOf_iff_prefix.mp hswitch) with hstart | hstart
    · exact absurd (List.isPrefixOf_iff_prefix.mpr hstart) (by rw [← startsWith, haudio.2]; decide)
    · exact absurd (List.isPrefixOf_iff_prefix.mpr hstart) (by rw [← startsWith, haudio.1]; decide)

/-- A case distinction that returns. -/
theorem of_ite_ok {c : Prop} [Decidable c] {x y : Except Nat Options} {P : Prop}
    (h : (if c then x else y) = .ok o') (hx : c → x = .ok o' → P) (hy : ¬c → y = .ok o' → P) : P := by
  by_cases hc : c
  · rw [if_pos hc] at h
    exact hx hc h
  · rw [if_neg hc] at h
    exact hy hc h

/-- Every round of the loop. -/
theorem optionRead_of_ok (hmark : arg ≠ "--") (h : parseOptions o [arg] = .ok o') :
    OptionRead o arg o' := by
  unfold parseOptions at h
  -- `--enablerepo`, `--disablerepo`, `--downloadonly`, `--clean`, `--gui`
  refine of_ite_ok h (fun hrepo h => optionRead_passed h ?_ rfl fun _ => rfl) fun _ h => ?_
  · rw [Bool.or_eq_true] at hrepo
    exact hrepo.elim (not_own_of_start (by decide +kernel) (by decide +kernel))
      (not_own_of_start (by decide +kernel) (by decide +kernel))
  have hliteral : ∀ option own, isOwn option = own → arg = option → isOwn arg = own := by
    rintro option own hown rfl
    exact hown
  refine of_ite_ok h (fun harg h => optionRead_kept h (hliteral _ _ (by decide +kernel) harg) rfl rfl)
    fun hdownload h => ?_
  refine of_ite_ok h (fun harg h => optionRead_passed h (hliteral _ _ (by decide +kernel) harg) rfl
    fun _ => rfl) fun _ h => ?_
  refine of_ite_ok h (fun harg h => optionRead_passed h (hliteral _ _ (by decide +kernel) harg) rfl
    fun _ => rfl) fun _ h => ?_
  -- `--show-output`, `--silent`, `--just-print-progress`, `--check-only`
  refine of_ite_ok h (fun harg h => optionRead_kept h (hliteral _ _ (by decide +kernel) harg) rfl rfl)
    fun houtput h => ?_
  refine of_ite_ok h (fun harg h => optionRead_kept h (hliteral _ _ (by decide +kernel) harg) rfl rfl)
    fun hsilent h => ?_
  refine of_ite_ok h (fun harg h => optionRead_kept h (hliteral _ _ (by decide +kernel) harg) rfl rfl)
    fun hprogress h => ?_
  refine of_ite_ok h (fun harg h => optionRead_passed h (hliteral _ _ (by decide +kernel) harg) rfl
    fun _ => rfl) fun _ h => ?_
  -- `--preserve-terminal`, `--console`, `--force-xen-upgrade`
  refine of_ite_ok h (fun harg h => optionRead_kept h (hliteral _ _ (by decide +kernel) harg) rfl rfl)
    fun hterminal h => ?_
  refine of_ite_ok h (fun harg h => optionRead_kept h (hliteral _ _ (by decide +kernel) harg) rfl rfl)
    fun hconsole h => ?_
  refine of_ite_ok h (fun harg h => optionRead_kept h (hliteral _ _ (by decide +kernel) harg) rfl rfl)
    fun hxen h => ?_
  -- `--switch-audio-server-to`, of which other uses are errors
  refine of_ite_ok h (fun harg h => optionRead_kept h (hliteral _ _ (by decide +kernel) harg) rfl rfl)
    fun _ h => ?_
  refine of_ite_ok h (fun harg h => optionRead_kept h (hliteral _ _ (by decide +kernel) harg) rfl rfl)
    fun _ h => ?_
  refine of_ite_ok h (fun _ h => by cases h) fun haudio h => ?_
  -- `--action`, `--skip-boot-check`
  refine of_ite_ok h (fun harg h => optionRead_passed h
    (not_own_of_start (by decide +kernel) (by decide +kernel) harg) rfl fun _ => rfl) fun _ h => ?_
  refine of_ite_ok h (fun harg h => optionRead_kept h (hliteral _ _ (by decide +kernel) harg) rfl rfl)
    fun hboot h => ?_
  -- the mark, other options, and packages
  refine of_ite_ok h (fun hc _ => absurd hc hmark) fun _ h => ?_
  have hother : isOwn arg = false := by
    simp [isOwn, ownOptions, hdownload, houtput, hsilent, hprogress, hterminal, hconsole, hxen, hboot, haudio]
  refine of_ite_ok h (fun _ h => optionRead_passed h hother rfl fun _ => rfl) fun hoption h => ?_
  exact optionRead_passed h hother rfl fun hdash => absurd hdash hoption

/-! ## Options before other arguments -/

/-- The loop over options and further arguments is the loop over the options and the loop over the
rest. -/
theorem parseOptions_append {options : List String} (h : ∀ arg ∈ options, arg ≠ "--") (o : Options)
    (rest : List String) : parseOptions o (options ++ rest)
      = (parseOptions o options).bind fun o' => parseOptions o' rest := by
  induction options generalizing o with
  | nil => rfl
  | cons arg options ih =>
      rw [List.forall_mem_cons] at h
      rw [List.cons_append, parseOptions_cons h.1, parseOptions_cons h.1 o options]
      cases parseOptions o [arg] with
      | error status => rfl
      | ok o' => exact ih h.2 o'

/-- An option, but not the mark. -/
def IsOption (arg : String) : Prop := startsWith arg "-" = true ∧ arg ≠ "--"

/-- Options are no packages. -/
theorem pkgs_of_options {options : List String} (h : ∀ arg ∈ options, IsOption arg)
    (hok : parseOptions o options = .ok o') : o'.pkgs = o.pkgs := by
  induction options generalizing o with
  | nil => rw [← Except.ok.inj hok]
  | cons arg options ih =>
      rw [List.forall_mem_cons] at h
      rw [parseOptions_cons h.1.2] at hok
      cases harg : parseOptions o [arg] with
      | error status =>
          rw [harg] at hok
          cases hok
      | ok o₁ =>
          rw [harg] at hok
          exact (ih h.2 hok).trans ((optionRead_of_ok h.1.2 harg).pkgs h.1.1)

/-! ## Package names -/

/-- Package names without the mark. -/
def Options.withNames (o : Options) (names : List String) : Options :=
  ({ o with
    pkgs := o.pkgs ++ names, updatevmOpts := o.updatevmOpts ++ names } : Options).defaultInstall

/-- Package names after the mark. -/
def Options.withMarked (o : Options) (names : List String) : Options :=
  ({ o with
    yumOpts := o.yumOpts ++ names, updatevmOpts := o.updatevmOpts ++ names } : Options).defaultInstall

/-- What starts like an option is one. -/
theorem startsWith_hyphen {start : String} (hstart : startsWith start "-" = true)
    (h : startsWith arg start = true) : startsWith arg "-" = true :=
  List.isPrefixOf_iff_prefix.mpr
    ((List.isPrefixOf_iff_prefix.mp hstart).trans (List.isPrefixOf_iff_prefix.mp h))

/-- A package name is taken as it is. -/
theorem parseOptions_name (h : ¬ startsWith arg "-" = true) (o : Options) (rest : List String) :
    parseOptions o (arg :: rest) = parseOptions (o.withNames [arg]) rest := by
  have hstart : ∀ start, startsWith start "-" = true → ¬ startsWith arg start = true :=
    fun start hstart harg => h (startsWith_hyphen hstart harg)
  have hne : ∀ option, startsWith option "-" = true → ¬ arg = option := by
    rintro option hoption rfl
    exact h hoption
  have hrepo : ¬ (startsWith arg "--enablerepo=" || startsWith arg "--disablerepo=") = true := by
    rw [Bool.or_eq_true, not_or]
    exact ⟨hstart _ (by decide +kernel), hstart _ (by decide +kernel)⟩
  rw [parseOptions, if_neg hrepo]
  iterate 12 rw [if_neg (hne _ (by decide +kernel))]
  rw [if_neg (hstart _ (by decide +kernel)), if_neg (hstart _ (by decide +kernel)),
    if_neg (hne _ (by decide +kernel)), if_neg (hne _ (by decide +kernel)), if_neg h]
  rfl

/-- Package names are collected. -/
theorem parseOptions_names {names : List String} (h : ∀ arg ∈ names, ¬ startsWith arg "-" = true)
    (hne : names ≠ []) (o : Options) : parseOptions o names = .ok (o.withNames names) := by
  induction names generalizing o with
  | nil => exact absurd rfl hne
  | cons arg names ih =>
      rw [List.forall_mem_cons] at h
      rw [parseOptions_name h.1]
      by_cases hnil : names = []
      · rw [hnil]
        rfl
      · rw [ih h.2 hnil]
        simp [Options.withNames, Options.defaultInstall]

/-- After the mark the names are passed on, and no packages are collected. -/
theorem parseOptions_mark (o : Options) (names : List String) :
    parseOptions o ("--" :: names) = .ok (if names = [] then o else o.withMarked names) := by
  rw [parseOptions]
  iterate 16 rw [if_neg (by decide +kernel)]
  rw [if_pos rfl, apply_ite Except.ok]
  rfl

/-! ## What is passed on -/

/-- The arguments that are passed on, in their order: all but those for dom0 alone, and everything after the
mark. -/
def passedOn : List String → List String
  | [] => []
  | arg :: rest =>
      if arg = "--" then rest else if isOwn arg then passedOn rest else arg :: passedOn rest

/-- They are passed on. -/
theorem updatevmOpts_eq {args : List String} (h : parseOptions o args = .ok o') :
    o'.updatevmOpts = o.updatevmOpts ++ passedOn args := by
  induction args generalizing o with
  | nil =>
      obtain rfl := Except.ok.inj h
      exact (List.append_nil _).symm
  | cons arg args ih =>
      rw [passedOn]
      by_cases hmark : arg = "--"
      · rw [hmark, parseOptions_mark] at h
        obtain rfl := Except.ok.inj h
        rw [if_pos hmark]
        by_cases hnil : args = []
        · rw [if_pos hnil, hnil, List.append_nil]
        · rw [if_neg hnil]
          rfl
      · rw [parseOptions_cons hmark] at h
        cases harg : parseOptions o [arg] with
        | error status =>
            rw [harg] at h
            cases h
        | ok o₁ =>
            rw [harg] at h
            rw [if_neg hmark, ih h, (optionRead_of_ok hmark harg).updatevm, List.append_assoc]
            split <;> rfl

end Dom0Update

end QubesAdminLinux
