import Mathlib.Data.List.Perm.Basic
import SlotPool.Inspector.Settings

/-!
# Options in any order

Every option is searched for in the whole row of words, so the order in which the options stand
makes no difference, and neither does an option that stands there once more further back.  This
holds as long as no value is itself the word for an option.

Main definitions:

- `Settings.Group`: an option as it stands in a row of words, with its value if it takes one.
- `Settings.Reordering`: groups in another order, but those of each option in the same.
- `Settings.firsts`: groups without those of options that stood there before.
- `Settings.Described`: settings as groups describe them, wherever each of them stands.

Main results:

- Theorem `Settings.valueOf?_wordsOf`: the value of an option is that in its first group.
- Theorem `Settings.parse_congr`: only the first group of every option counts.
- Theorem `Settings.parse_wordsOf_eq_ok_iff`: which settings groups give.
- Theorem `Settings.order_irrelevant`: the order of the options does not matter.
-/

namespace SlotPool.Inspector.Settings

/-! ## Groups of words -/

/-- The words for options that take a value. -/
def valueFlags : List String :=
  [configFlag, objectSizeFlag, blocksFlag, allocsFlag, freesFlag]

/-- The words for options. -/
def flags : List String :=
  reclaimFlag :: valueFlags

/-- An option as it stands in a row of words.  A value is not itself the word for an option. -/
inductive Group where
  | reclaim
  | option (flag value : String) (hflag : flag ∈ valueFlags) (hvalue : value ∉ flags)
deriving DecidableEq

namespace Group

/-- The word for the option. -/
def flag : Group → String
  | reclaim => reclaimFlag
  | option flag _ _ _ => flag

/-- The value of the option, if it takes one. -/
def value? : Group → Option String
  | reclaim => none
  | option _ value _ _ => some value

/-- The words of a group. -/
def words : Group → List String
  | reclaim => [reclaimFlag]
  | option flag value _ _ => [flag, value]

end Group

/-- The row of words that groups make up. -/
def wordsOf (groups : List Group) : List String :=
  groups.flatMap Group.words

/-- The groups of one option. -/
def groupsOf (flag : String) (groups : List Group) : List Group :=
  groups.filter (·.flag = flag)

/-- The value in the first group of an option. -/
def given? (flag : String) (groups : List Group) : Option String :=
  (groupsOf flag groups).head?.bind Group.value?

/-- The same groups in another order, where the groups of each option stand in the same order. -/
structure Reordering (groups others : List Group) : Prop where
  perm : others.Perm groups
  kept : ∀ flag, groupsOf flag others = groupsOf flag groups

/-- The groups without those of options that stood there before. -/
def firsts : List Group → List Group
  | [] => []
  | group :: groups => group :: (firsts groups).filter (·.flag ≠ group.flag)

variable {library : Toml.Library} {readFile : Config.ReadFile} {flag : String} {words : List String}
variable {groups others : List Group} {settings : Settings}

theorem Group.flag_mem (group : Group) : group.flag ∈ flags := by
  cases group with
  | reclaim => exact List.mem_cons_self
  | option flag value hflag hvalue => exact List.mem_cons_of_mem _ hflag

/-- Only the words for options have to be looked at. -/
theorem reordering_iff :
    Reordering groups others ↔
      others.Perm groups ∧ ∀ flag ∈ flags, groupsOf flag others = groupsOf flag groups := by
  constructor
  · intro h
    exact ⟨h.perm, fun flag _ => h.kept flag⟩
  · rintro ⟨hperm, hkept⟩
    refine ⟨hperm, fun flag => ?_⟩
    by_cases hflag : flag ∈ flags
    · exact hkept flag hflag
    · have hnone (groups : List Group) : groupsOf flag groups = [] := by
        apply List.filter_eq_nil_iff.2
        intro group _ hsame
        exact hflag (of_decide_eq_true hsame ▸ group.flag_mem)
      rw [hnone, hnone]

instance (groups others : List Group) : Decidable (Reordering groups others) :=
  decidable_of_iff _ reordering_iff.symm

/-- A reclaim takes no value. -/
theorem ne_of_mem_valueFlags (hflag : flag ∈ valueFlags) : reclaimFlag ≠ flag := by
  rintro rfl
  exact absurd hflag (by decide)

/-- The value of an option is that in its first group, wherever that group stands. -/
theorem valueOf?_wordsOf (hflag : flag ∈ valueFlags) (groups : List Group) :
    valueOf? flag (wordsOf groups) = (given? flag groups).map some := by
  induction groups with
  | nil => rfl
  | cons group groups ih =>
      cases group with
      | reclaim =>
          have hne := ne_of_mem_valueFlags hflag
          simpa [wordsOf, Group.words, valueOf?, hne, given?, groupsOf, Group.flag] using ih
      | option other value hother hvalue =>
          by_cases hsame : other = flag
          · simp [wordsOf, Group.words, valueOf?, hsame, given?, groupsOf, Group.flag, Group.value?]
          · -- The search passes over the value, which is not the word searched for.
            have hne : value ≠ flag := fun heq => hvalue (heq ▸ List.mem_cons_of_mem _ hflag)
            simpa [wordsOf, Group.words, valueOf?, hsame, hne, given?, groupsOf, Group.flag] using ih

/-- A reclaim is asked for if one of the groups asks for it. -/
theorem contains_wordsOf (groups : List Group) :
    (wordsOf groups).contains reclaimFlag = (groupsOf reclaimFlag groups).head?.isSome := by
  induction groups with
  | nil => rfl
  | cons group groups ih =>
      cases group with
      | reclaim => simp [wordsOf, Group.words, groupsOf, Group.flag]
      | option other value hother hvalue =>
          have hflag := ne_of_mem_valueFlags hother
          have hne : reclaimFlag ≠ value := fun heq => hvalue (heq ▸ List.mem_cons_self)
          simpa [wordsOf, Group.words, groupsOf, Group.flag, hflag, hflag.symm, hne] using ih

/-! ## Only first groups count -/

/-- Groups give the same settings, or fail in the same way, if the first groups of every option
are the same. -/
theorem parse_congr (library : Toml.Library) (readFile : Config.ReadFile)
    (hfirst : ∀ flag, (groupsOf flag others).head? = (groupsOf flag groups).head?) :
    parse library readFile (wordsOf others) = parse library readFile (wordsOf groups) := by
  have hvalue {flag : String} (hflag : flag ∈ valueFlags) :
      valueOf? flag (wordsOf others) = valueOf? flag (wordsOf groups) := by
    rw [valueOf?_wordsOf hflag, valueOf?_wordsOf hflag, given?, given?, hfirst]
  have hconfig :
      configOf library readFile (wordsOf others) = configOf library readFile (wordsOf groups) := by
    rw [configOf, configOf, hvalue (by decide)]
  have hcount (flag : String) (hflag : flag ∈ valueFlags) :
      countOf flag (wordsOf others) = countOf flag (wordsOf groups) := by
    rw [countOf, countOf, hvalue hflag]
  have hreclaim : (wordsOf others).contains reclaimFlag = (wordsOf groups).contains reclaimFlag := by
    rw [contains_wordsOf, contains_wordsOf, hfirst]
  rw [parse, parse, hconfig, hcount objectSizeFlag (by decide), hcount blocksFlag (by decide),
    hcount allocsFlag (by decide), hcount freesFlag (by decide), hreclaim]

/-- What is left of the groups of an option is the first of them. -/
theorem groupsOf_firsts (flag : String) (groups : List Group) :
    groupsOf flag (firsts groups) = (groupsOf flag groups).take 1 := by
  induction groups with
  | nil => rfl
  | cons group groups ih =>
      by_cases hsame : group.flag = flag
      · simp [firsts, groupsOf, hsame]
      · have hothers : groupsOf flag ((firsts groups).filter (·.flag ≠ group.flag)) =
            groupsOf flag (firsts groups) := by
          rw [groupsOf, groupsOf, List.filter_filter]
          apply List.filter_congr
          intro other _
          by_cases hflag : other.flag = flag
          · simp [hflag, Ne.symm hsame]
          · simp [hflag]
        rw [firsts, groupsOf, List.filter_cons_of_neg (by simpa using hsame), ← groupsOf, hothers,
          ih, groupsOf, groupsOf, List.filter_cons_of_neg (by simpa using hsame)]

/-! ## The settings that groups give -/

/-- A computation and what follows it succeed together exactly if each of them does. -/
theorem bind_eq_ok_iff {ε α β : Type} {x : Except ε α} {f : α → Except ε β} {value : β} :
    x >>= f = .ok value ↔ ∃ middle, x = .ok middle ∧ f middle = .ok value := by
  cases x with
  | error fault => simp [bind, Except.bind]
  | ok middle => simp [bind, Except.bind]

/-- Settings that were accepted do not take back more slots than they hand out. -/
theorem frees_le_allocs (h : parse library readFile words = .ok settings) :
    settings.frees ≤ settings.allocs := by
  simp only [parse, bind_eq_ok_iff] at h
  rcases h with ⟨config, -, objectSize, -, initialBlocks, -, allocs, -, frees, -, hsettings⟩
  rcases Except.ok.inj hsettings with rfl
  exact Nat.min_le_right _ _

/-- A count is the one written as the value of an option, or else another one. -/
def CountIs (given : Option String) (otherwise count : Nat) : Prop :=
  match given with
  | none => count = otherwise
  | some value => Numeral.read value = .ok count

/-- A configuration is that of the file named, or else the default one. -/
def ConfigIs (library : Toml.Library) (readFile : Config.ReadFile) (given : Option String)
    (config : Config) : Prop :=
  match given with
  | none => config = .forObjectSize defaultObjectSize
  | some path => Config.ofFileBy library readFile path = .ok config

/-- The settings that groups describe, when the file that they name gives `file`. -/
structure Described (library : Toml.Library) (readFile : Config.ReadFile) (groups : List Group)
    (file : Config) (settings : Settings) : Prop where
  named : ConfigIs library readFile (given? configFlag groups) file
  /-- An object size among the groups overrides the one of the file. -/
  objectSize : CountIs (given? objectSizeFlag groups) file.objectSize settings.config.objectSize
  /-- A number of blocks among the groups overrides the one of the file. -/
  initialBlocks : CountIs (given? blocksFlag groups) file.initialBlocks
    settings.config.initialBlocks
  blockBytes : settings.config.blockBytes = file.blockBytes
  allocs : CountIs (given? allocsFlag groups) defaultAllocs settings.allocs
  /-- No more slots are taken back than are handed out. -/
  frees : ∃ count, CountIs (given? freesFlag groups) (settings.allocs / 2) count ∧
    settings.frees = min count settings.allocs
  reclaim : settings.reclaim = (groupsOf reclaimFlag groups).head?.isSome

/-- A count that was found is the one that the groups describe. -/
theorem exists_countOf_iff (hflag : flag ∈ valueFlags) {otherwise count : Nat} :
    (∃ found, countOf flag (wordsOf groups) = .ok found ∧ found.getD otherwise = count) ↔
      CountIs (given? flag groups) otherwise count := by
  rw [countOf, valueOf?_wordsOf hflag]
  cases given? flag groups with
  | none => simp [CountIs, eq_comm]
  | some value => cases hread : Numeral.read value <;> simp [CountIs, hread]

theorem configOf_wordsOf_eq_ok_iff {file : Config} :
    configOf library readFile (wordsOf groups) = .ok file ↔
      ConfigIs library readFile (given? configFlag groups) file := by
  rw [configOf, valueOf?_wordsOf (by decide)]
  cases given? configFlag groups with
  | none => simp [ConfigIs, eq_comm]
  | some path =>
      cases hfile : Config.ofFileBy library readFile path <;>
        simp [ConfigIs, hfile, Except.mapError]

/-- Groups give the settings that they describe, and fail if they describe none. -/
theorem parse_wordsOf_eq_ok_iff :
    parse library readFile (wordsOf groups) = .ok settings ↔
      ∃ file, Described library readFile groups file settings := by
  simp only [parse, bind_eq_ok_iff, configOf_wordsOf_eq_ok_iff, contains_wordsOf]
  constructor
  · rintro ⟨file, hfile, objectSize, hobjectSize, initialBlocks, hinitialBlocks, allocs, hallocs,
      frees, hfrees, hsettings⟩
    rcases Except.ok.inj hsettings with rfl
    exact ⟨file, {
      named := hfile
      objectSize := (exists_countOf_iff (by decide)).1 ⟨objectSize, hobjectSize, rfl⟩
      initialBlocks := (exists_countOf_iff (by decide)).1 ⟨initialBlocks, hinitialBlocks, rfl⟩
      blockBytes := rfl
      allocs := (exists_countOf_iff (by decide)).1 ⟨allocs, hallocs, rfl⟩
      frees := ⟨_, (exists_countOf_iff (by decide)).1 ⟨frees, hfrees, rfl⟩, rfl⟩
      reclaim := rfl }⟩
  · rintro ⟨file, h⟩
    rcases h.frees with ⟨count, hcount, hmin⟩
    rcases (exists_countOf_iff (by decide)).2 h.objectSize with ⟨objectSize, hobjectSize, hsize⟩
    rcases (exists_countOf_iff (by decide)).2 h.initialBlocks with
      ⟨initialBlocks, hinitialBlocks, hblocks⟩
    rcases (exists_countOf_iff (by decide)).2 h.allocs with ⟨allocs, hallocs, hissued⟩
    rcases (exists_countOf_iff (by decide)).2 hcount with ⟨frees, hfrees, htaken⟩
    refine ⟨file, h.named, objectSize, hobjectSize, initialBlocks, hinitialBlocks, allocs, hallocs,
      frees, hfrees, ?_⟩
    rw [hsize, hblocks, hissued, htaken, ← hmin, ← h.blockBytes, ← h.reclaim]
    rfl

/-! ## The main result -/

/-- The order of the options does not matter, and neither do options that are repeated further back.
Sizes given as options override those of a file, wherever the file is named.  Settings that are
accepted never take back more slots than they hand out. -/
theorem order_irrelevant (library : Toml.Library) (readFile : Config.ReadFile)
    (groups : List Group) :
    (∀ others, Reordering groups others →
        parse library readFile (wordsOf others) = parse library readFile (wordsOf groups)) ∧
      parse library readFile (wordsOf (firsts groups)) = parse library readFile (wordsOf groups) ∧
      (∀ settings, parse library readFile (wordsOf groups) = .ok settings ↔
        ∃ file, Described library readFile groups file settings) ∧
      ∀ words settings, parse library readFile words = .ok settings →
        settings.frees ≤ settings.allocs := by
  refine ⟨?_, ?_, fun settings => parse_wordsOf_eq_ok_iff, fun words settings => frees_le_allocs⟩
  · intro others hreordering
    apply parse_congr
    intro flag
    rw [hreordering.kept flag]
  · apply parse_congr
    intro flag
    rw [groupsOf_firsts, List.head?_take, if_neg Nat.one_ne_zero]

/-- The files of a directory that holds one configuration. -/
def poolFile : Config.ReadFile := fun path =>
  if path = "pool.toml" then .ok "block_bytes = 64\nobject_size = 8\n".toUTF8 else .error .missing

theorem ofFile_poolFile : Config.ofFile poolFile "pool.toml" = .ok ⟨8, 20, 64⟩ := by
  have hread : (Config.ofFile poolFile "pool.toml").toOption = some ⟨8, 20, 64⟩ := by
    decide +kernel
  rcases hfile : Config.ofFile poolFile "pool.toml" with fault | config
  · rw [hfile] at hread
    contradiction
  · rw [hfile] at hread
    rw [Option.some.inj hread]

/-- Two options stand in front of the file whose sizes they override, and one of them once more
behind it; more slots are to be taken back than handed out. -/
def poolGroups : List Group :=
  [.option blocksFlag "3" (by decide) (by decide),
    .option objectSizeFlag "+48" (by decide) (by decide),
    .option configFlag "pool.toml" (by decide) (by decide), .reclaim,
    .option blocksFlag "nine" (by decide) (by decide),
    .option freesFlag "7" (by decide) (by decide),
    .option allocsFlag "5" (by decide) (by decide)]

/-- The same options with the file in front. -/
def reorderedGroups : List Group :=
  [.option configFlag "pool.toml" (by decide) (by decide),
    .option allocsFlag "5" (by decide) (by decide),
    .option blocksFlag "3" (by decide) (by decide),
    .option freesFlag "7" (by decide) (by decide),
    .option blocksFlag "nine" (by decide) (by decide), .reclaim,
    .option objectSizeFlag "+48" (by decide) (by decide)]

/-- In either order the options give the same settings, and without the one that is repeated. -/
theorem order_irrelevant_poolGroups :
    Reordering poolGroups reorderedGroups ∧
      (firsts poolGroups).length = 6 ∧
      parse .standard poolFile (wordsOf poolGroups) = .ok ⟨⟨48, 3, 64⟩, 5, 5, true⟩ ∧
      parse .standard poolFile (wordsOf reorderedGroups) = .ok ⟨⟨48, 3, 64⟩, 5, 5, true⟩ ∧
      parse .standard poolFile (wordsOf (firsts poolGroups)) = .ok ⟨⟨48, 3, 64⟩, 5, 5, true⟩ := by
  have hreordering : Reordering poolGroups reorderedGroups := by decide
  have hirrelevant := order_irrelevant .standard poolFile poolGroups
  have hparse := (hirrelevant.2.2.1 ⟨⟨48, 3, 64⟩, 5, 5, true⟩).2 ⟨⟨8, 20, 64⟩, {
    named := ofFile_poolFile
    objectSize := rfl
    initialBlocks := rfl
    blockBytes := rfl
    allocs := rfl
    frees := ⟨7, rfl, rfl⟩
    reclaim := by decide }⟩
  refine ⟨hreordering, by decide, hparse, ?_, ?_⟩
  · rw [hirrelevant.1 _ hreordering, hparse]
  · rw [hirrelevant.2.1, hparse]

end SlotPool.Inspector.Settings
