/-
Help is shown where it is asked for, and nowhere else.

Every option that is read comes from a word of the line, and the option for help
has one spelling only: it takes no value and has no short form
(`word_of_help`). Words are read up to three times, and each time what is read is
a part of the line.
-/
import StreamRequest.CommandLine
import StreamRequest.Proofs.Request.Reading

namespace StreamRequest.CommandLine

open Results

/-- Among these options the one for help is a flag. -/
def HelpIsFlag (specs : List OptionSpec) : Prop :=
  ∀ spec ∈ specs, spec.long = helpOption → spec = .flag helpOption

theorem helpIsFlag_globalOptions : HelpIsFlag globalOptions := by
  simp [HelpIsFlag, globalOptions, OptionSpec.long, levelOption, helpOption]

theorem helpIsFlag_options (subcommand : Subcommand) : HelpIsFlag subcommand.options := by
  cases subcommand <;>
    simp [HelpIsFlag, Subcommand.options, OptionSpec.long, formatOption, hexOption, rawOption,
      jsonOption, helpOption]

/-! ## Single words -/

/-- The option that a word is of. -/
def Word.long? : Word → Option String
  | .operand => none
  | .option long _ | .awaiting long _ => some long

variable {specs : List OptionSpec}

theorem word_of_readLong? (hs : HelpIsFlag specs) {word : Bytes} {found : Word}
    (h : readLong? specs word = some (.ok found)) (hl : found.long? = some helpOption) :
    word = Utf8.ofText helpOption := by
  simp only [readLong?, Option.map_eq_some_iff] at h
  obtain ⟨spec, hfind, h⟩ := h
  have hname : Utf8.ofText spec.long = (word.splitFirst equalsSign).1 := by
    simpa using List.find?_some hfind
  have hspec := hs spec (List.mem_of_find?_eq_some hfind)
  cases spec with
  | flag long =>
    rcases Bytes.splitFirst_cases equalsSign word with ⟨-, hw⟩ | ⟨before, after, -, -, hw⟩
    · simp only [hw, Option.isSome_none, Bool.false_eq_true, if_false] at h hname
      rw [← Except.ok.inj h] at hl
      rw [← hname, OptionSpec.long, Option.some.inj hl]
    · simp [hw] at h
  | valued long short =>
    have hlong : long = helpOption := by
      cases hv : (word.splitFirst equalsSign).2 <;> simp only [hv] at h <;>
        · rw [← Except.ok.inj h] at hl
          exact Option.some.inj hl
    cases hspec hlong

/-- Only the word itself is the option for help. -/
theorem word_of_help (hs : HelpIsFlag specs) {word : Bytes} {found : Word}
    (h : readWord specs word = .ok found) (hl : found.long? = some helpOption) :
    word = Utf8.ofText helpOption := by
  unfold readWord at h
  split at h
  · split at h
    · split at h
      · rename_i hlong
        exact word_of_readLong? hs (hlong.trans (congrArg some h)) hl
      split at h
      · cases h
      · -- A short form stands for an option with a value.
        rename_i second rest hdash hnone hsecond
        simp only [readShort] at h
        split at h
        · cases h
        · rename_i spec hfind
          have hlong : spec.long = helpOption := by
            split at h <;>
            · rw [← Except.ok.inj h] at hl
              exact Option.some.inj hl
          have hshort := List.find?_some hfind
          rw [hs spec (List.mem_of_find?_eq_some hfind) hlong] at hshort
          simp [OptionSpec.short?] at hshort
    · rw [← Except.ok.inj h] at hl
      cases hl
  · rw [← Except.ok.inj h] at hl
    cases hl

/-! ## Lines -/

theorem has_addOption_iff {long : String} {value : Bytes} {words : Words} {name : String} :
    (words.addOption long value).has name = true ↔ long = name ∨ words.has name = true := by
  simp [Words.addOption, Words.has]

theorem help_mem_of_read (hs : HelpIsFlag specs) {mixed : Bool} {args : List Bytes} {words : Words}
    (h : Words.read specs mixed args = .ok words) (hm : words.has helpOption = true) :
    Utf8.ofText helpOption ∈ args := by
  fun_induction Words.read specs mixed args generalizing words with
  | case1 | case2 | case5 =>
    obtain rfl := Except.ok.inj h
    cases hm
  | case3 | case7 => cases h
  | case4 word rest hend hword hmixed ih =>
    obtain ⟨others, ho, rfl⟩ := map_eq_ok_iff.1 h
    exact List.mem_cons_of_mem _ (ih ho hm)
  | case6 word rest hend long value hword ih =>
    obtain ⟨others, ho, rfl⟩ := map_eq_ok_iff.1 h
    rcases has_addOption_iff.1 hm with rfl | hm
    · exact word_of_help hs hword rfl ▸ List.mem_cons_self
    · exact List.mem_cons_of_mem _ (ih ho hm)
  | case8 word hend long spelling hword value rest ih =>
    obtain ⟨others, ho, rfl⟩ := map_eq_ok_iff.1 h
    rcases has_addOption_iff.1 hm with rfl | hm
    · exact word_of_help hs hword rfl ▸ List.mem_cons_self
    · exact List.mem_cons_of_mem _ (List.mem_cons_of_mem _ (ih ho hm))

theorem operands_sublist {mixed : Bool} {args : List Bytes} {words : Words}
    (h : Words.read specs mixed args = .ok words) : words.operands.Sublist args := by
  fun_induction Words.read specs mixed args generalizing words with
  | case1 | case5 =>
    obtain rfl := Except.ok.inj h
    exact List.Sublist.refl _
  | case2 =>
    obtain rfl := Except.ok.inj h
    exact List.sublist_cons_self _ _
  | case3 | case7 => cases h
  | case4 word rest hend hword hmixed ih =>
    obtain ⟨others, ho, rfl⟩ := map_eq_ok_iff.1 h
    exact (ih ho).cons_cons _
  | case6 word rest hend long value hword ih =>
    obtain ⟨others, ho, rfl⟩ := map_eq_ok_iff.1 h
    exact (ih ho).cons _
  | case8 word hend long spelling hword value rest ih =>
    obtain ⟨others, ho, rfl⟩ := map_eq_ok_iff.1 h
    exact ((ih ho).cons _).cons _

theorem help_mem_of_readWords (hs : HelpIsFlag specs) {subcommand asked : Option Subcommand}
    {mixed : Bool} {args : List Bytes}
    (h : readWords subcommand specs mixed args = .error (.help asked)) :
    Utf8.ofText helpOption ∈ args := by
  unfold readWords at h
  split at h
  · cases h
  · rename_i words hw
    split at h
    · rename_i hm
      exact help_mem_of_read hs hw hm
    · cases h

theorem operands_sublist_of_readWords {subcommand : Option Subcommand} {mixed : Bool}
    {args : List Bytes} {words : Words} (h : readWords subcommand specs mixed args = .ok words) :
    words.operands.Sublist args := by
  unfold readWords at h
  split at h
  · cases h
  · rename_i found hw
    split at h
    · cases h
    · rw [← Except.ok.inj h]
      exact operands_sublist hw

theorem help_mem_of_unknownCommand {name : Bytes} {rest : List Bytes} {asked : Option Subcommand}
    (h : unknownCommand name rest = .help asked) : Utf8.ofText helpOption ∈ name :: rest := by
  unfold unknownCommand at h
  split at h
  · rename_i stop hw
    rw [h] at hw
    exact help_mem_of_readWords helpIsFlag_globalOptions hw
  · cases h

theorem help_of_read_eq_error {args : List Bytes} {asked : Option Subcommand}
    (h : Invocation.read args = .error (.help asked)) :
    args = [] ∨ Utf8.ofText helpOption ∈ args := by
  obtain hw | ⟨words, hw, h⟩ := bind_eq_error_iff.1 h
  · exact .inr (help_mem_of_readWords helpIsFlag_globalOptions hw)
  have hsub := operands_sublist_of_readWords hw
  split at h
  · split at h
    · rename_i hargs
      exact .inl hargs
    · cases h
  · rename_i name rest hop
    split at h
    · cases h
    · rw [hop] at hsub
      exact .inr (hsub.subset (help_mem_of_unknownCommand (Except.error.inj h)))

theorem rest_sublist {args : List Bytes} {invocation : Invocation}
    (h : Invocation.read args = .ok invocation) : invocation.rest.Sublist args := by
  obtain ⟨words, hw, h⟩ := bind_eq_ok_iff.1 h
  have hsub := operands_sublist_of_readWords hw
  split at h
  · split at h <;> cases h
  · rename_i name rest hop
    split at h
    · rw [hop] at hsub
      rw [← Except.ok.inj h]
      exact (List.sublist_cons_self name rest).trans hsub
    · cases h

theorem help_mem_of_runSubcommand {settings : Settings} {debug : Bool} {subcommand : Subcommand}
    {args : List Bytes} {asked : Option Subcommand}
    (h : runSubcommand settings debug subcommand args = .error (.help asked)) :
    Utf8.ofText helpOption ∈ args := by
  obtain hw | ⟨words, -, h⟩ := bind_eq_error_iff.1 h
  · exact help_mem_of_readWords (helpIsFlag_options subcommand) hw
  cases subcommand with
  | parse =>
    obtain ⟨error, -, he⟩ := mapError_eq_error_iff.1 h
    cases he
  | encode =>
    obtain ⟨error, -, he⟩ := mapError_eq_error_iff.1 h
    cases he
  | config =>
    simp only [runConfig] at h
    split at h
    · cases h
    split at h
    · cases h
    · obtain ⟨_, -, h⟩ := mapError_eq_error_iff.1 h
      cases h

/-- **Help is asked for.** A run comes to help only if its line has no words at all, or the option
for help among them. -/
theorem help_of_run {env : Environment} {args : List Bytes} {asked : Option Subcommand}
    (h : run env args = .help asked) : args = [] ∨ Utf8.ofText helpOption ∈ args := by
  have hstop : runChecked env args = .error (.help asked) := by
    unfold run at h
    cases hr : runChecked env args with
    | ok outcome => rw [hr] at h; cases h
    | error stop =>
      rw [hr] at h
      cases stop <;> cases h
      rfl
  obtain hi | ⟨invocation, hi, h⟩ := bind_eq_error_iff.1 hstop
  · exact help_of_read_eq_error hi
  obtain hs | ⟨settings, -, h⟩ := bind_eq_error_iff.1 h
  · obtain ⟨_, -, hs⟩ := mapError_eq_error_iff.1 hs
    cases hs
  obtain hv | ⟨severity, -, h⟩ := bind_eq_error_iff.1 h
  · obtain ⟨_, -, hv⟩ := mapError_eq_error_iff.1 hv
    cases hv
  · exact .inr ((rest_sublist hi).subset (help_mem_of_runSubcommand h))

end StreamRequest.CommandLine
