import Mathlib.Data.List.Perm.Subperm
import SlotPool.Config.Document
import SlotPool.Proofs.Toml.Reading

/-!
# A configuration survives its document

The document of a configuration is three lines, each of which assigns one number.
In whatever order these lines stand, and with or without those that have defaults,
the numbers that are read are the numbers that were written.  This takes a library
that writes single numbers and reads lines of them as it should.

Main definitions:

- `assigned?`: the number that assignments give to a key.
- `Config.keeping`: a configuration with defaults for all that is not among some assignments.

Main results:

- `parseBy_documentOf`: a document of assignments is read as the numbers assigned.
- `document_roundTrip`: the lines of a configuration, permuted and some with defaults left out,
  are read as the configuration with these defaults.
-/

namespace SlotPool.Config

open Toml (Assignment IsBare Library documentOf numberLimit)

/-! ## Assignments -/

/-- The number that assignments give to a key. -/
def assigned? (assignments : List Assignment) (key : String) : Option Nat :=
  (assignments.find? fun assignment => assignment.key = key).map (·.value)

section Assignments

variable {library : Library} {assignments : List Assignment} {key : String}

theorem assigned?_cons (assignment : Assignment) (assignments : List Assignment) (key : String) :
    assigned? (assignment :: assignments) key =
      if assignment.key = key then some assignment.value else assigned? assignments key := by
  by_cases hkey : assignment.key = key
  · simp [assigned?, hkey]
  · simp [assigned?, hkey]

theorem assigned?_eq_none (hkey : key ∉ assignments.map (·.key)) :
    assigned? assignments key = none := by
  rw [assigned?, Option.map_eq_none_iff, List.find?_eq_none]
  intro assignment hmem
  rw [decide_eq_true_eq]
  rintro rfl
  exact hkey (List.mem_map_of_mem hmem)

theorem assigned?_eq_some_iff (hnodup : (assignments.map (·.key)).Nodup) {value : Nat} :
    assigned? assignments key = some value ↔ ⟨key, value⟩ ∈ assignments := by
  simp only [assigned?, Option.map_eq_some_iff]
  constructor
  · rintro ⟨assignment, hfound, rfl⟩
    have hsame : assignment.key = key := by
      simpa using List.find?_some hfound
    rw [← hsame]
    exact List.mem_of_find?_eq_some hfound
  · intro hmem
    cases hfound : assignments.find? fun assignment => assignment.key = key with
    | none => simpa using List.find?_eq_none.1 hfound _ hmem
    | some assignment =>
        have hsame : assignment.key = key := by
          simpa using List.find?_some hfound
        have heq : assignment = ⟨key, value⟩ :=
          List.inj_on_of_nodup_map hnodup (List.mem_of_find?_eq_some hfound) hmem hsame
        exact ⟨assignment, rfl, by rw [heq]⟩

/-- The order of assignments to different keys does not matter. -/
theorem assigned?_of_perm {others : List Assignment} (hperm : others.Perm assignments)
    (hnodup : (assignments.map (·.key)).Nodup) (key : String) :
    assigned? others key = assigned? assignments key := by
  have hothers : (others.map (·.key)).Nodup := (hperm.map (·.key)).nodup_iff.2 hnodup
  apply Option.ext
  intro value
  rw [assigned?_eq_some_iff hothers, assigned?_eq_some_iff hnodup, hperm.mem_iff]

/-! ## Settings -/

theorem Settings.add_integer (settings : Settings) (key : String) (n : Nat) :
    settings.add key (.integer n) = .ok
      { objectSize := if key = objectSizeKey then some n else settings.objectSize
        initialBlocks := if key = initialBlocksKey then some n else settings.initialBlocks
        blockBytes := if key = blockBytesKey then some n else settings.blockBytes } := by
  have hcount : countOf (.integer n) = .ok n := by
    rw [countOf, if_pos (Int.natCast_nonneg n), Int.toNat_natCast]
  by_cases hsize : key = objectSizeKey
  · subst hsize
    simp [add, hcount, Except.map, objectSizeKey, initialBlocksKey, blockBytesKey]
  · by_cases hblocks : key = initialBlocksKey
    · subst hblocks
      simp [add, hcount, Except.map, objectSizeKey, initialBlocksKey, blockBytesKey]
    · by_cases hbytes : key = blockBytesKey
      · subst hbytes
        simp [add, hcount, Except.map, objectSizeKey, initialBlocksKey, blockBytesKey]
      · simp [add, hsize, hblocks, hbytes]

/-- What is assigned later counts only if nothing was assigned before. -/
theorem assigned?_or_ite {assignment : Assignment}
    (hnew : assignment.key ∉ assignments.map (·.key)) (key : String) (old : Option Nat) :
    (assigned? assignments key).or (if assignment.key = key then some assignment.value else old) =
      (assigned? (assignment :: assignments) key).or old := by
  rw [assigned?_cons]
  by_cases hkey : assignment.key = key
  · subst hkey
    rw [assigned?_eq_none hnew, if_pos rfl, if_pos rfl, Option.none_or, Option.some_or]
  · rw [if_neg hkey, if_neg hkey]

theorem Settings.ofEntries_map_entry (hnodup : (assignments.map (·.key)).Nodup)
    (settings : Settings) :
    settings.ofEntries (assignments.map Assignment.entry) = .ok
      { objectSize := (assigned? assignments objectSizeKey).or settings.objectSize
        initialBlocks := (assigned? assignments initialBlocksKey).or settings.initialBlocks
        blockBytes := (assigned? assignments blockBytesKey).or settings.blockBytes } := by
  induction assignments generalizing settings with
  | nil => rfl
  | cons assignment assignments ih =>
      rcases List.nodup_cons.1 hnodup with ⟨hnew, hnodup⟩
      simp only [List.map_cons, Assignment.entry, ofEntries, add_integer]
      rw [← assigned?_or_ite hnew, ← assigned?_or_ite hnew, ← assigned?_or_ite hnew]
      exact ih hnodup _

/-! ## Documents of assignments -/

/-- A document of assignments of different settings is read as the numbers assigned. -/
theorem parseBy_documentOf (hlibrary : library.Faithful)
    (hkeys : ∀ assignment ∈ assignments, IsBare assignment.key)
    (hvalues : ∀ assignment ∈ assignments, assignment.value ≤ numberLimit)
    (hnodup : (assignments.map (·.key)).Nodup) :
    parseBy library (documentOf assignments) =
      (Settings.mk (assigned? assignments objectSizeKey) (assigned? assignments initialBlocksKey)
        (assigned? assignments blockBytesKey)).config := by
  rcases hlibrary.read assignments hkeys hvalues hnodup with ⟨found, hperm, hread⟩
  have hfound : (found.map (·.key)).Nodup := (hperm.map (·.key)).nodup_iff.2 hnodup
  rw [parseBy, hread]
  simp only [Settings.ofEntries_map_entry hfound, Settings.none, Option.or_none,
    assigned?_of_perm hperm hnodup]

theorem mapM_write (hlibrary : library.Faithful)
    (hkeys : ∀ assignment ∈ assignments, IsBare assignment.key)
    (hvalues : ∀ assignment ∈ assignments, assignment.value ≤ numberLimit) :
    assignments.mapM library.write = some (assignments.map Assignment.line) := by
  induction assignments with
  | nil => rfl
  | cons assignment assignments ih =>
      rcases List.forall_mem_cons.1 hkeys with ⟨hkey, hkeys⟩
      rcases List.forall_mem_cons.1 hvalues with ⟨hvalue, hvalues⟩
      rw [List.mapM_cons, hlibrary.write assignment hkey hvalue, ih hkeys hvalues]
      rfl

/-- One number that cannot be written is enough. -/
theorem mapM_write_eq_none (hlibrary : library.Faithful) {assignment : Assignment}
    (hmem : assignment ∈ assignments) (hvalue : numberLimit < assignment.value) :
    assignments.mapM library.write = none := by
  induction assignments with
  | nil => contradiction
  | cons first assignments ih =>
      rw [List.mapM_cons]
      rcases List.mem_cons.1 hmem with rfl | hmem
      · rw [hlibrary.refuse _ hvalue]
        rfl
      · rw [ih hmem]
        cases library.write first <;> rfl

end Assignments

/-! ## The lines of a configuration -/

/-- The configuration with defaults for all that has one and is not among the given assignments. -/
def keeping (config : Config) (kept : List Assignment) : Config where
  objectSize := config.objectSize
  initialBlocks :=
    if initialBlocksKey ∈ kept.map (·.key) then config.initialBlocks else defaultInitialBlocks
  blockBytes :=
    if blockBytesKey ∈ kept.map (·.key) then config.blockBytes else defaultBlockBytes

section Lines

variable {library : Library} {config : Config} {kept : List Assignment}

theorem keeping_assignments (config : Config) : config.keeping config.assignments = config := by
  simp [keeping, assignments]

theorem isBare_of_mem_assignments {assignment : Assignment}
    (hmem : assignment ∈ config.assignments) : IsBare assignment.key := by
  have hkeys : ∀ key ∈ [objectSizeKey, initialBlocksKey, blockBytesKey], IsBare key := by
    decide
  apply hkeys
  have hmap := List.mem_map_of_mem (f := fun line : Assignment => line.key) hmem
  simpa only [assignments, List.map_cons, List.map_nil] using hmap

theorem nodup_keys (config : Config) : (config.assignments.map (·.key)).Nodup := by
  simp [assignments, objectSizeKey, initialBlocksKey, blockBytesKey]

theorem nodup_keys_of_subperm (hkept : kept.Subperm config.assignments) :
    (kept.map (·.key)).Nodup := by
  rcases hkept with ⟨lines, hperm, hlines⟩
  rw [← (hperm.map (·.key)).nodup_iff]
  exact (nodup_keys config).sublist (hlines.map (·.key))

theorem assigned?_of_subperm (hkept : kept.Subperm config.assignments) {assignment : Assignment}
    (hmem : assignment ∈ config.assignments) :
    assigned? kept assignment.key =
      if assignment.key ∈ kept.map (·.key) then some assignment.value else none := by
  by_cases hkey : assignment.key ∈ kept.map (·.key)
  · rcases List.mem_map.1 hkey with ⟨line, hline, hsame⟩
    have heq : line = assignment :=
      List.inj_on_of_nodup_map (nodup_keys config) (hkept.subset hline) hmem hsame
    rw [if_pos hkey, assigned?_eq_some_iff (nodup_keys_of_subperm hkept), ← heq]
    exact hline
  · rw [if_neg hkey, assigned?_eq_none hkey]

theorem parseBy_kept (hlibrary : library.Faithful)
    (hvalues : ∀ assignment ∈ kept, assignment.value ≤ numberLimit)
    (hkept : kept.Subperm config.assignments)
    (hsize : ⟨objectSizeKey, config.objectSize⟩ ∈ kept) :
    parseBy library (documentOf kept) = .ok (config.keeping kept) := by
  have hsizeKey : objectSizeKey ∈ kept.map (·.key) := List.mem_map_of_mem hsize
  have hfound (assignment : Assignment) (hmem : assignment ∈ config.assignments) :=
    assigned?_of_subperm hkept hmem
  rw [parseBy_documentOf hlibrary (fun _ hmem => isBare_of_mem_assignments (hkept.subset hmem))
    hvalues (nodup_keys_of_subperm hkept)]
  simp only [assignments, List.forall_mem_cons] at hfound
  rcases hfound with ⟨hobjectSize, hinitialBlocks, hblockBytes, -⟩
  rw [hobjectSize, hinitialBlocks, hblockBytes, if_pos hsizeKey]
  simp only [Settings.config, keeping]
  congr 2
  · by_cases hblocks : initialBlocksKey ∈ kept.map (·.key)
    · rw [if_pos hblocks, if_pos hblocks, Option.getD_some]
    · rw [if_neg hblocks, if_neg hblocks, Option.getD_none]
  · by_cases hbytes : blockBytesKey ∈ kept.map (·.key)
    · rw [if_pos hbytes, if_pos hbytes, Option.getD_some]
    · rw [if_neg hbytes, if_neg hbytes, Option.getD_none]

theorem ofDocumentBy_of_parseBy {text : String} (hparse : parseBy library text = .ok config) :
    ofDocumentBy library text =
      match config.validate with
      | .ok () => .ok config
      | .error cause => .error cause := by
  rw [ofDocumentBy, hparse]
  cases hvalid : config.validate with
  | ok checked => simp only [hvalid]
  | error cause => simp only [hvalid]

theorem documentBy?_eq_some (hlibrary : library.Faithful)
    (hvalues : ∀ assignment ∈ config.assignments, assignment.value ≤ numberLimit) :
    config.documentBy? library = some (documentOf config.assignments) := by
  rw [documentBy?, mapM_write hlibrary (fun _ hmem => isBare_of_mem_assignments hmem) hvalues]
  rfl

theorem documentBy?_eq_none_iff (hlibrary : library.Faithful) :
    config.documentBy? library = none ↔
      ∃ assignment ∈ config.assignments, numberLimit < assignment.value := by
  constructor
  · intro hnone
    by_contra hvalues
    simp only [not_exists, not_and, Nat.not_lt] at hvalues
    rw [documentBy?_eq_some hlibrary hvalues] at hnone
    contradiction
  · rintro ⟨assignment, hmem, hvalue⟩
    rw [documentBy?, mapM_write_eq_none hlibrary hmem hvalue]
    rfl

/-- A configuration can be written unless one of its numbers is beyond the limit of documents.
The document that it is written as describes it.  If its lines are put in any order, and any of
those are left out that have defaults, then the document describes the configuration with these
defaults, or is rejected for what is wrong with that configuration. -/
theorem document_roundTrip (hlibrary : library.Faithful) (config : Config) :
    (config.documentBy? library = none ↔
        numberLimit < config.objectSize ∨ numberLimit < config.initialBlocks ∨
          numberLimit < config.blockBytes) ∧
      (config.objectSize ≤ numberLimit → config.initialBlocks ≤ numberLimit →
        config.blockBytes ≤ numberLimit →
          config.documentBy? library = some (documentOf config.assignments) ∧
            (config.validate = .ok () →
              ofDocumentBy library (documentOf config.assignments) = .ok config) ∧
            ∀ kept : List Assignment, kept.Subperm config.assignments →
              ⟨objectSizeKey, config.objectSize⟩ ∈ kept →
                ofDocumentBy library (documentOf kept) =
                  match (config.keeping kept).validate with
                  | .ok () => .ok (config.keeping kept)
                  | .error cause => .error cause) := by
  constructor
  · rw [documentBy?_eq_none_iff hlibrary]
    simp [assignments]
  · intro hobjectSize hinitialBlocks hblockBytes
    have hvalues : ∀ assignment ∈ config.assignments, assignment.value ≤ numberLimit := by
      simp only [assignments, List.forall_mem_cons, List.not_mem_nil, false_imp_iff, implies_true,
        and_true]
      exact ⟨hobjectSize, hinitialBlocks, hblockBytes⟩
    have hkept {kept : List Assignment} (hlines : kept.Subperm config.assignments)
        (hsize : ⟨objectSizeKey, config.objectSize⟩ ∈ kept) :=
      ofDocumentBy_of_parseBy
        (parseBy_kept hlibrary (fun _ hmem => hvalues _ (hlines.subset hmem)) hlines hsize)
    refine ⟨documentBy?_eq_some hlibrary hvalues, fun hvalid => ?_, fun kept => hkept⟩
    rw [hkept (List.Subperm.refl _) List.mem_cons_self, keeping_assignments, hvalid]

/-- Two of three lines, in the other order. -/
theorem document_roundTrip_reordered :
    Library.standard.Faithful ∧
      [Assignment.mk blockBytesKey 64, ⟨objectSizeKey, 8⟩].Subperm (assignments ⟨8, 3, 64⟩) ∧
      document? ⟨8, 3, 64⟩ = some "object_size = 8\ninitial_blocks = 3\nblock_bytes = 64\n" ∧
      ofDocument "block_bytes = 64\nobject_size = 8\n" = .ok ⟨8, 20, 64⟩ := by
  have hkept : [Assignment.mk blockBytesKey 64, ⟨objectSizeKey, 8⟩].Subperm
      (assignments ⟨8, 3, 64⟩) := by
    decide
  have hroundTrip := (document_roundTrip Library.faithful_standard ⟨8, 3, 64⟩).2 (by decide)
    (by decide) (by decide)
  have hwritten := hroundTrip.1
  have hread := hroundTrip.2.2 _ hkept (by decide)
  have hlines : documentOf (assignments ⟨8, 3, 64⟩) =
      "object_size = 8\ninitial_blocks = 3\nblock_bytes = 64\n" := by
    decide +kernel
  rw [hlines] at hwritten
  exact ⟨Library.faithful_standard, hkept, hwritten, hread⟩

end Lines

end SlotPool.Config
