import CallPolicy.Proofs.Outcomes

/-!
# CallPolicy.Proofs.Arguments

Command lines as people write them: file names and flags with a value, in any order, and switches
anywhere among them, also between a flag and its value. What is read from one depends on the names,
the values and the set of switches alone.

* `Mixed.filter_eq`: without its switches, a command line is the words of its groups.
* `takeValue_words`: a flag is taken out with the value of the first group that carries it.
* `run_of_groups`: what is read and what the run makes of it, that order is no matter, and what a
  flag given twice comes to.
-/

namespace CallPolicy
namespace CommandLine

/-- The flags that a value follows. -/
inductive ValueFlag where
  | config
  | rulesFile
  deriving DecidableEq

def ValueFlag.word : ValueFlag → String
  | config => configFlag
  | rulesFile => rulesFileFlag

/-- A word that does not look like an option. -/
structure PlainWord where
  text : String
  isPlain : text.startsWith "--" = false

/-- What stands together on a command line. -/
inductive Group where
  | file (name : PlainWord)
  | valued (flag : ValueFlag) (value : PlainWord)

namespace Group

def words : Group → List String
  | file name => [name.text]
  | valued flag value => [flag.word, value.text]

def file? : Group → Option String
  | file name => some name.text
  | valued _ _ => none

def value? (flag : ValueFlag) : Group → Option String
  | file _ => none
  | valued f value => if f = flag then some value.text else none

end Group

def wordsOf (groups : List Group) : List String := groups.flatMap Group.words

def filesOf (groups : List Group) : List String := groups.filterMap Group.file?

/-- The values that a flag is given, in order. -/
def valuesOf (flag : ValueFlag) (groups : List Group) : List String :=
  groups.filterMap (Group.value? flag)

/-- The words in order, with switches put in anywhere. -/
inductive Mixed : List String → List String → Prop
  | nil : Mixed [] []
  | word {words args : List String} (w : String) (h : Mixed words args) :
      Mixed (w :: words) (w :: args)
  | switch {words args : List String} (s : Switch) (h : Mixed words args) :
      Mixed words (s.word :: args)

/-- The options that groups and switches ask for. -/
def Options.ofGroups (groups : List Group) (isSet : Switch → Bool) : Options where
  asText := isSet .text
  debug := isSet .debug
  request :=
    { configPath := (valuesOf .config groups).head?
      rulesFile := (valuesOf .rulesFile groups).head?
      isOptional := .bool (isSet .optional)
      checkConstructors := isSet .checkConstructors }
  files := filesOf groups

/-! ## Words -/

theorem looksLikeOption_word (flag : ValueFlag) : flag.word.startsWith "--" = true := by
  cases flag <;> decide +kernel

theorem isSwitch_flag (flag : ValueFlag) : isSwitch flag.word = false := by
  cases flag <;> decide +kernel

theorem looksLikeOption_switch (s : Switch) : s.word.startsWith "--" = true := by
  cases s <;> decide +kernel

theorem isSwitch_word (s : Switch) : isSwitch s.word = true := by
  cases s <;> decide +kernel

theorem isSwitch_of_isPlain {w : String} (h : w.startsWith "--" = false) : isSwitch w = false := by
  rw [isSwitch, List.any_eq_false]
  intro s _ hword
  rw [← eq_of_beq hword, looksLikeOption_switch] at h
  cases h

theorem PlainWord.ne_word (w : PlainWord) (flag : ValueFlag) : w.text ≠ flag.word := by
  intro h
  have hplain := w.isPlain
  rw [h, looksLikeOption_word] at hplain
  cases hplain

theorem ValueFlag.word_injective {flag flag' : ValueFlag} (h : flag.word = flag'.word) :
    flag = flag' := by
  have hdistinct : configFlag ≠ rulesFileFlag := by decide
  cases flag with
  | config =>
    cases flag' with
    | config => rfl
    | rulesFile => exact absurd h hdistinct
  | rulesFile =>
    cases flag' with
    | config => exact absurd h.symm hdistinct
    | rulesFile => rfl

theorem wordsOf_cons (g : Group) (groups : List Group) :
    wordsOf (g :: groups) = g.words ++ wordsOf groups := rfl

theorem isSwitch_of_mem_words {groups : List Group} {w : String} (h : w ∈ wordsOf groups) :
    isSwitch w = false := by
  obtain ⟨g, -, hw⟩ := List.mem_flatMap.mp h
  cases g with
  | file name =>
    rw [List.mem_singleton.mp hw]
    exact isSwitch_of_isPlain name.isPlain
  | valued flag value =>
    rcases List.mem_pair.mp hw with rfl | rfl
    · exact isSwitch_flag flag
    · exact isSwitch_of_isPlain value.isPlain

theorem Mixed.filter_eq {words args : List String} (h : Mixed words args)
    (hwords : ∀ w ∈ words, isSwitch w = false) : args.filter (!isSwitch ·) = words := by
  induction h with
  | nil => rfl
  | word w _ ih =>
    have hrest := ih fun v hv => hwords v (List.mem_cons_of_mem _ hv)
    simp [hwords w List.mem_cons_self, hrest]
  | switch s _ ih => simp [isSwitch_word, ih hwords]

/-! ## Flags -/

theorem takeValue_of_ne {flag a : String} (rest : List String) (h : a ≠ flag) :
    takeValue flag (a :: rest) =
      (takeValue flag rest).map fun (value, others) => (value, a :: others) := by
  cases rest with
  | nil => simp [takeValue, h, Except.map]
  | cons b rest =>
    rw [takeValue, if_neg h]
    cases takeValue flag (b :: rest) <;> rfl

/-- Whether a group gives a flag its value. -/
def Group.carries (flag : ValueFlag) (g : Group) : Bool := (g.value? flag).isSome

/-- The groups without the first that carries a flag. -/
def dropFirst (flag : ValueFlag) (groups : List Group) : List Group :=
  groups.eraseP (Group.carries flag)

theorem dropFirst_of_value {flag : ValueFlag} {g : Group} {v : String} (groups : List Group)
    (h : g.value? flag = some v) : dropFirst flag (g :: groups) = groups := by
  have hcarries : g.carries flag = true := by rw [Group.carries, h]; rfl
  exact List.eraseP_cons_of_pos hcarries

theorem dropFirst_of_no_value {flag : ValueFlag} {g : Group} (groups : List Group)
    (h : g.value? flag = none) : dropFirst flag (g :: groups) = g :: dropFirst flag groups := by
  have hcarries : ¬ g.carries flag = true := by rw [Group.carries, h]; exact Bool.false_ne_true
  exact List.eraseP_cons_of_neg hcarries

theorem takeValue_words (flag : ValueFlag) (groups : List Group) :
    takeValue flag.word (wordsOf groups) =
      .ok ((valuesOf flag groups).head?, wordsOf (dropFirst flag groups)) := by
  induction groups with
  | nil => rfl
  | cons g groups ih =>
    cases g with
    | file name =>
      rw [wordsOf_cons, Group.words, List.singleton_append, takeValue_of_ne _ (name.ne_word flag),
        ih, dropFirst_of_no_value _ rfl]
      rfl
    | valued f value =>
      rw [wordsOf_cons, Group.words]
      by_cases hf : f = flag
      · have hvalue : (Group.valued f value).value? flag = some value.text := if_pos hf
        rw [dropFirst_of_value _ hvalue, valuesOf, List.filterMap_cons_some hvalue, hf]
        exact if_pos rfl
      · have hword : f.word ≠ flag.word := fun h => hf (ValueFlag.word_injective h)
        have hvalue : (Group.valued f value).value? flag = none := if_neg hf
        rw [dropFirst_of_no_value _ hvalue, valuesOf, List.filterMap_cons_none hvalue,
          List.cons_append, List.singleton_append, takeValue_of_ne _ hword,
          takeValue_of_ne _ (value.ne_word flag), ih]
        rfl

/-- A flag that is taken out leaves its further values. -/
theorem valuesOf_dropFirst (flag : ValueFlag) (groups : List Group) :
    valuesOf flag (dropFirst flag groups) = (valuesOf flag groups).tail := by
  induction groups with
  | nil => rfl
  | cons g groups ih =>
    cases hg : g.value? flag with
    | none =>
      rw [dropFirst_of_no_value _ hg, valuesOf, valuesOf, List.filterMap_cons_none hg,
        List.filterMap_cons_none hg]
      exact ih
    | some v =>
      rw [dropFirst_of_value _ hg, valuesOf, valuesOf, List.filterMap_cons_some hg, List.tail_cons]

/-- What a flag is taken out of keeps all else that its groups stand for. -/
theorem filterMap_dropFirst {flag : ValueFlag} {f : Group → Option String}
    (h : ∀ g, (g.value? flag).isSome = true → f g = none) (groups : List Group) :
    (dropFirst flag groups).filterMap f = groups.filterMap f := by
  induction groups with
  | nil => rfl
  | cons g groups ih =>
    cases hg : g.value? flag with
    | none => rw [dropFirst_of_no_value _ hg, List.filterMap_cons, List.filterMap_cons, ih]
    | some v =>
      rw [dropFirst_of_value _ hg, List.filterMap_cons_none (h g (by rw [hg]; rfl))]

theorem filesOf_dropFirst (flag : ValueFlag) (groups : List Group) :
    filesOf (dropFirst flag groups) = filesOf groups := by
  refine filterMap_dropFirst ?_ groups
  intro g hg
  cases g with
  | file name => cases hg
  | valued f value => rfl

theorem valuesOf_dropFirst_of_ne {flag flag' : ValueFlag} (h : flag ≠ flag')
    (groups : List Group) : valuesOf flag (dropFirst flag' groups) = valuesOf flag groups := by
  refine filterMap_dropFirst ?_ groups
  intro g hg
  cases g with
  | file name => rfl
  | valued f value =>
    by_cases hf : f = flag
    · rw [hf, Group.value?, if_neg h] at hg
      cases hg
    · exact if_neg hf

/-- The groups that are left when both flags have been taken out. -/
def leftOver (groups : List Group) : List Group := dropFirst .rulesFile (dropFirst .config groups)

theorem filesOf_leftOver (groups : List Group) : filesOf (leftOver groups) = filesOf groups := by
  rw [leftOver, filesOf_dropFirst, filesOf_dropFirst]

theorem valuesOf_leftOver (flag : ValueFlag) (groups : List Group) :
    valuesOf flag (leftOver groups) = (valuesOf flag groups).tail := by
  cases flag with
  | config => rw [leftOver, valuesOf_dropFirst_of_ne (by decide), valuesOf_dropFirst]
  | rulesFile => rw [leftOver, valuesOf_dropFirst, valuesOf_dropFirst_of_ne (by decide)]

/-- Without flags, the words are the file names. -/
theorem wordsOf_of_no_values {groups : List Group} (h : ∀ flag, valuesOf flag groups = []) :
    wordsOf groups = filesOf groups := by
  induction groups with
  | nil => rfl
  | cons g groups ih =>
    cases g with
    | file name =>
      have hfile : (Group.file name).file? = some name.text := rfl
      rw [wordsOf_cons, filesOf, List.filterMap_cons_some hfile, ih h]
      rfl
    | valued f value =>
      have hvalue : (Group.valued f value).value? f = some value.text := if_pos rfl
      have hnone := h f
      rw [valuesOf, List.filterMap_cons_some hvalue] at hnone
      cases hnone

theorem isPlain_of_mem_files {groups : List Group} {name : String} (h : name ∈ filesOf groups) :
    name.startsWith "--" = false := by
  obtain ⟨g, -, hg⟩ := List.mem_filterMap.mp h
  cases g with
  | file name' => cases hg; exact name'.isPlain
  | valued f value => cases hg

/-- A flag with a value is itself among the words. -/
theorem word_mem_of_values {flag : ValueFlag} {groups : List Group}
    (h : valuesOf flag groups ≠ []) : flag.word ∈ wordsOf groups := by
  obtain ⟨v, hv⟩ := List.exists_mem_of_ne_nil _ h
  obtain ⟨g, hg, hvalue⟩ := List.mem_filterMap.mp hv
  refine List.mem_flatMap.mpr ⟨g, hg, ?_⟩
  cases g with
  | file name => cases hvalue
  | valued f value =>
    by_cases hf : f = flag
    · rw [hf]; exact List.mem_cons_self
    · rw [Group.value?, if_neg hf] at hvalue
      cases hvalue

/-! ## Reading -/

theorem isSet_eq (s : Switch) (args : List String) : s.isSet args = decide (s.word ∈ args) := by
  rw [Switch.isSet, List.contains_eq_mem]

/-- What becomes of the words that switches and flags leave. -/
theorem read_of_taken {args rest left : List String} {configPath rulesFile : Option String}
    (hconfig : takeValue configFlag (args.filter (!isSwitch ·)) = .ok (configPath, rest))
    (hrules : takeValue rulesFileFlag rest = .ok (rulesFile, left)) :
    Options.read args =
      if left.filter (·.startsWith "--") ≠ [] then
        .error (.unknownOptions (left.filter (·.startsWith "--")))
      else if left = [] then .error .noFiles
      else .ok
        { asText := Switch.text.isSet args
          debug := Switch.debug.isSet args
          request :=
            { configPath, rulesFile, isOptional := .bool (Switch.optional.isSet args)
              checkConstructors := Switch.checkConstructors.isSet args }
          files := left } := by
  simp only [Options.read, hconfig, hrules, bind, Except.bind]
  cases left.filter (·.startsWith "--") with
  | cons option options => rfl
  | nil => cases left <;> rfl

section

variable {groups : List Group} {args : List String}

/-- Where a flag has no second value, file names are all that is left. -/
theorem read_of_once (h : Mixed (wordsOf groups) args)
    (honce : ∀ flag, (valuesOf flag groups).length ≤ 1) :
    Options.read args =
      if filesOf groups = [] then .error .noFiles
      else .ok (Options.ofGroups groups fun s => decide (s.word ∈ args)) := by
  have hwords := h.filter_eq fun w hw => isSwitch_of_mem_words hw
  have hconfig := takeValue_words .config groups
  have hrules := takeValue_words .rulesFile (dropFirst .config groups)
  have hnone (flag : ValueFlag) : valuesOf flag (leftOver groups) = [] := by
    rw [valuesOf_leftOver, ← List.length_eq_zero_iff, List.length_tail]
    have hlength := honce flag
    omega
  have hleft : wordsOf (leftOver groups) = filesOf groups := by
    rw [wordsOf_of_no_values hnone, filesOf_leftOver]
  have hplain : (filesOf groups).filter (·.startsWith "--") = [] := by
    rw [List.filter_eq_nil_iff]
    intro name hname
    rw [isPlain_of_mem_files hname]
    exact Bool.false_ne_true
  rw [valuesOf_dropFirst_of_ne (by decide), ← leftOver, hleft] at hrules
  rw [← hwords] at hconfig
  rw [read_of_taken hconfig hrules, hplain, if_neg (not_not_intro rfl)]
  simp only [isSet_eq]
  rfl

/-- A second value leaves its flag, which is no file name. -/
theorem read_of_twice (h : Mixed (wordsOf groups) args)
    (htwice : ∃ flag, 2 ≤ (valuesOf flag groups).length) :
    ∃ options, Options.read args = .error (.unknownOptions options) := by
  obtain ⟨flag, hflag⟩ := htwice
  have hwords := h.filter_eq fun w hw => isSwitch_of_mem_words hw
  have hconfig := takeValue_words .config groups
  have hrules := takeValue_words .rulesFile (dropFirst .config groups)
  have hmore : valuesOf flag (leftOver groups) ≠ [] := by
    rw [valuesOf_leftOver, ← List.length_pos_iff, List.length_tail]
    omega
  have hunknown : (wordsOf (leftOver groups)).filter (·.startsWith "--") ≠ [] := by
    intro hnil
    exact List.filter_eq_nil_iff.mp hnil _ (word_mem_of_values hmore) (looksLikeOption_word flag)
  rw [← hwords] at hconfig
  rw [read_of_taken hconfig hrules, ← leftOver, if_pos hunknown]
  exact ⟨_, rfl⟩

/-! ## Running -/

/-- What is read decides what the run comes to, in every workspace. -/
theorem run_of_once (h : Mixed (wordsOf groups) args)
    (honce : ∀ flag, (valuesOf flag groups).length ≤ 1) (w : Workspace)
    (outcome : Except Break Outcome) :
    let o := Options.ofGroups groups fun s => decide (s.word ∈ args)
    run w args = outcome ↔
      if filesOf groups = [] then
        outcome = .ok ⟨2, printed o.asText ("No files provided. " ++ usage), []⟩
      else ComesTo w o outcome := by
  intro o
  have hread := read_of_once h honce
  by_cases hfiles : filesOf groups = []
  · rw [if_pos hfiles] at hread
    rw [if_pos hfiles, run_of_fault hread, isSet_eq, eq_comm]
    rfl
  · rw [if_neg hfiles] at hread
    rw [if_neg hfiles]
    exact run_eq_iff_comesTo hread

theorem run_congr {groups' : List Group} {args' : List String} (h : Mixed (wordsOf groups) args)
    (h' : Mixed (wordsOf groups') args') (honce : ∀ flag, (valuesOf flag groups).length ≤ 1)
    (hfiles : filesOf groups' = filesOf groups)
    (hvalues : ∀ flag, valuesOf flag groups' = valuesOf flag groups)
    (hswitches : ∀ s : Switch, s.word ∈ args' ↔ s.word ∈ args) (w : Workspace) :
    run w args' = run w args := by
  have honce' (flag : ValueFlag) : (valuesOf flag groups').length ≤ 1 := by
    rw [hvalues]
    exact honce flag
  have hread : Options.read args' = Options.read args := by
    rw [read_of_once h' honce', read_of_once h honce]
    simp only [Options.ofGroups, hfiles, hvalues, hswitches]
  rw [run, run, hread, isSet_eq, isSet_eq, decide_eq_decide.mpr (hswitches .text)]

theorem run_of_twice (h : Mixed (wordsOf groups) args)
    (htwice : ∃ flag, 2 ≤ (valuesOf flag groups).length) :
    ∃ outcome, outcome.code = 2 ∧ ∀ w, run w args = .ok outcome := by
  obtain ⟨options, hread⟩ := read_of_twice h htwice
  exact ⟨_, rfl, run_of_fault hread⟩

end

/-- **Order is no matter.** A command line made of groups, with switches put in anywhere, asks for
exactly the values, the switches and the file names that stand in it, in their order, and in every
workspace the run comes to what these options come to; without a file name, to a message. Two command
lines that agree in them have the same outcome. A flag given twice is answered with the exit status
2, the same for every workspace: no file is looked at. -/
theorem run_of_groups {groups : List Group} {args : List String}
    (h : Mixed (wordsOf groups) args) :
    ((∀ flag, (valuesOf flag groups).length ≤ 1) →
      let o := Options.ofGroups groups fun s => decide (s.word ∈ args)
      (Options.read args = if filesOf groups = [] then .error .noFiles else .ok o) ∧
      (∀ w outcome, run w args = outcome ↔
        if filesOf groups = [] then
          outcome = .ok ⟨2, printed o.asText ("No files provided. " ++ usage), []⟩
        else ComesTo w o outcome) ∧
      ∀ groups' args', Mixed (wordsOf groups') args' → filesOf groups' = filesOf groups →
        (∀ flag, valuesOf flag groups' = valuesOf flag groups) →
        (∀ s : Switch, s.word ∈ args' ↔ s.word ∈ args) → ∀ w, run w args' = run w args) ∧
    ((∃ flag, 2 ≤ (valuesOf flag groups).length) →
      ∃ outcome, outcome.code = 2 ∧ ∀ w, run w args = .ok outcome) := by
  refine ⟨fun honce => ⟨read_of_once h honce, run_of_once h honce, ?_⟩, run_of_twice h⟩
  intro groups' args' h' hfiles hvalues hswitches
  exact run_congr h h' honce hfiles hvalues hswitches

/-- A configuration file and a source file. -/
def fileWithConfig : List Group :=
  [.valued .config ⟨"c.yml", by decide +kernel⟩, .file ⟨"a.cpp", by decide +kernel⟩]

/-- A switch between the flag and its value, the flag after the file, the flag given twice. -/
theorem run_of_groups_switch_inside :
    Options.read ["--config", "--optional", "c.yml", "a.cpp", "--text"] =
        .ok ⟨true, false, ⟨some "c.yml", none, .bool true, false⟩, ["a.cpp"]⟩ ∧
      (∀ w, run w ["--text", "a.cpp", "--config", "c.yml", "--optional", "--text"] =
        run w ["--config", "--optional", "c.yml", "a.cpp", "--text"]) ∧
      run {} ["--config", "--optional", "c.yml", "a.cpp", "--text"] =
        .ok ⟨2, "Configuration error: Unable to find: c.yml\n", []⟩ ∧
      ∃ outcome, outcome.code = 2 ∧
        ∀ w, run w ["--config", "c.yml", "a.cpp", "--config", "c.yml"] = .ok outcome := by
  have hinside : Mixed (wordsOf fileWithConfig)
      ["--config", "--optional", "c.yml", "a.cpp", "--text"] :=
    .word _ (.switch .optional (.word _ (.word _ (.switch .text .nil))))
  have hafter : Mixed (wordsOf fileWithConfig.reverse)
      ["--text", "a.cpp", "--config", "c.yml", "--optional", "--text"] :=
    .switch .text (.word _ (.word _ (.word _ (.switch .optional (.switch .text .nil)))))
  have htwice : Mixed (wordsOf (fileWithConfig ++ fileWithConfig.take 1))
      ["--config", "c.yml", "a.cpp", "--config", "c.yml"] :=
    .word _ (.word _ (.word _ (.word _ (.word _ .nil))))
  have honce : ∀ flag, (valuesOf flag fileWithConfig).length ≤ 1 := by
    intro flag
    cases flag <;> decide
  obtain ⟨hread, hcomes, hsame⟩ := (run_of_groups hinside).1 honce
  refine ⟨?_, ?_, ?_, (run_of_groups htwice).2 ⟨.config, by decide⟩⟩
  · rw [hread, if_neg (by decide)]
    rfl
  · refine hsame _ _ hafter rfl ?_ ?_
    · intro flag
      cases flag <;> rfl
    · intro s
      cases s <;> decide
  · refine (hcomes {} _).mpr ?_
    rw [if_neg (by decide)]
    let o : Options := ⟨true, false, ⟨some "c.yml", none, .bool true, false⟩, ["a.cpp"]⟩
    have hresolved : (Config.resolve ({} : Workspace).files o.request).start =
        (.error (.fault (.notFound "c.yml")), []) := rfl
    exact ComesTo.fault hresolved

end CommandLine
end CallPolicy
