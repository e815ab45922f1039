import TypeGraph.FileTree

/-!
# Writing a file

What a path leads to once a file is written.  A file can be written where the path leads into a
directory and to none.  Such a file makes no new directory, so that every walk goes the way it went
before: the path leads to the new content, and nothing else changes.
-/

namespace TypeGraph

namespace FileTree

def write (t : FileTree) (p : FilePath) (content : List UInt8) : FileTree :=
  { t with files := (p, content) :: t.files }

variable {t : FileTree} {p q : FilePath}

theorem find_write_self (t : FileTree) (p : FilePath) (content : List UInt8) :
    (t.write p content).find p = .file content := by
  simp [find, write]

theorem isDirectory_of_find (h : t.find p = .directory) : t.isDirectory p = true := by
  rw [find] at h
  split at h
  · cases h
  · split at h
    · assumption
    · cases h

/-- What stands above a directory is one. -/
theorem isDirectory_of_prefix (h : t.isDirectory q = true) (habsolute : p.absolute = q.absolute)
    (hnames : p.names <+: q.names) : t.isDirectory p = true := by
  have hlength := hnames.length_le
  simp only [isDirectory, Bool.or_eq_true, List.all_eq_true, List.any_eq_true, Bool.and_eq_true,
    decide_eq_true_eq, List.isPrefixOf_iff_prefix] at h ⊢
  rcases h with (hup | ⟨d, hd, hsame, hd'⟩) | ⟨f, hf, ⟨hsame, hf'⟩, hlt⟩
  · exact Or.inl (Or.inl fun n hn => hup n (hnames.subset hn))
  · exact Or.inl (Or.inr ⟨d, hd, habsolute.trans hsame, hnames.trans hd'⟩)
  · exact Or.inr ⟨f, hf, ⟨habsolute.trans hsame, hnames.trans hf'⟩, by omega⟩

def InDirectory (t : FileTree) (p : FilePath) : Prop :=
  ∃ names last, p.names = names ++ [last] ∧ t.isDirectory { p with names } = true

/-- A file in a directory makes no new directory. -/
theorem isDirectory_write (h : t.InDirectory q) (content : List UInt8) (p : FilePath) :
    (t.write q content).isDirectory p = t.isDirectory p := by
  obtain ⟨names, last, hnames, hdirectory⟩ := h
  have hsplit : (t.write q content).isDirectory p =
      (t.isDirectory p || (decide (p.absolute = q.absolute) && p.names.isPrefixOf q.names &&
        decide (p.names.length < q.names.length))) := by
    simp only [isDirectory, write, List.any_cons]
    ac_rfl
  rw [hsplit, Bool.or_eq_left_iff_imp]
  simp only [Bool.and_eq_true, decide_eq_true_eq, List.isPrefixOf_iff_prefix, and_imp]
  intro habsolute hprefix hlt
  rw [hnames] at hprefix hlt
  have hwithin : p.names <+: names := by
    refine List.prefix_of_prefix_length_le hprefix (List.prefix_append names [last]) ?_
    simp only [List.length_append, List.length_singleton] at hlt
    omega
  exact isDirectory_of_prefix hdirectory habsolute hwithin

/-- Writing a file leaves every other path as it was. -/
theorem find_write_of_ne (h : t.InDirectory q) (content : List UInt8) (hne : p ≠ q) :
    (t.write q content).find p = t.find p := by
  have hfiles : (t.write q content).files = (q, content) :: t.files := rfl
  rw [find, find, isDirectory_write h, hfiles, List.find?_cons_of_neg (by simpa using Ne.symm hne)]

/-- One name of a path leads from a directory to a directory or into one. -/
theorem isDirectory_or_inDirectory_step {absolute : Bool} {done : List String}
    (h : t.isDirectory { absolute, names := done } = true) (name : String) :
    t.isDirectory { absolute, names := FilePath.step absolute done name } = true ∨
      t.InDirectory { absolute, names := FilePath.step absolute done name } := by
  rw [FilePath.step]
  split
  · exact Or.inr ⟨done, name, rfl, h⟩
  · left
    split
    · exact isDirectory_of_prefix h rfl (List.dropLast_prefix done)
    · rename_i hname hup
      split
      · exact h
      · have hup' : ∀ n ∈ done, n = ".." := by simpa using hup
        simp only [isDirectory, Bool.or_eq_true, List.all_eq_true, List.mem_append,
          List.mem_singleton, decide_eq_true_eq]
        exact Or.inl (Or.inl fun n hn => hn.elim (hup' n) id)

/-- A walk goes on from a directory, by a name that is not too long. -/
theorem walk_cons_eq_ok_iff {absolute : Bool} {done rest names : List String} {name : String} :
    t.walk absolute done (name :: rest) = .ok names ↔
      t.find { absolute, names := done } = .directory ∧ name.utf8ByteSize ≤ FilePath.maxName ∧
        t.walk absolute (FilePath.step absolute done name) rest = .ok names := by
  rw [walk]
  cases t.find { absolute, names := done } with
  | missing => simp
  | file content => simp
  | directory =>
      by_cases hlong : FilePath.maxName < name.utf8ByteSize
      · simp [hlong, Nat.not_le.mpr hlong]
      · simp [hlong, Nat.not_lt.mp hlong]

theorem resolve_eq_ok_iff :
    t.resolve p = .ok q ↔
      p.holdsNull = false ∧ p.text.utf8ByteSize ≤ FilePath.maxPath ∧
        ∃ names, t.walk p.absolute [] p.names = .ok names ∧
          q = { absolute := p.absolute, names } := by
  rw [resolve]
  cases p.holdsNull with
  | true => simp
  | false =>
      by_cases hlong : FilePath.maxPath < p.text.utf8ByteSize
      · simp [hlong, Nat.not_le.mpr hlong]
      · cases t.walk p.absolute [] p.names with
        | error e => simp [hlong, Except.map]
        | ok names => simp [hlong, Nat.not_lt.mp hlong, Except.map, eq_comm]

/-- Names that are walked lead to a directory or into one. -/
theorem isDirectory_or_inDirectory_walk {absolute : Bool} {done rest names : List String}
    (hdone : t.isDirectory { absolute, names := done } = true ∨
      t.InDirectory { absolute, names := done })
    (h : t.walk absolute done rest = .ok names) :
    t.isDirectory { absolute, names } = true ∨ t.InDirectory { absolute, names } := by
  induction rest generalizing done with
  | nil =>
      cases h
      exact hdone
  | cons name rest ih =>
      obtain ⟨hfind, -, hrest⟩ := walk_cons_eq_ok_iff.mp h
      exact ih (isDirectory_or_inDirectory_step (isDirectory_of_find hfind) name) hrest

/-- A walk meets directories only, so that a file behind it does not change it. -/
theorem walk_write {absolute : Bool} {done rest names : List String} (content : List UInt8)
    (hin : t.InDirectory q) (hq : t.isDirectory q = false)
    (h : t.walk absolute done rest = .ok names) :
    (t.write q content).walk absolute done rest = .ok names := by
  induction rest generalizing done with
  | nil => exact h
  | cons name rest ih =>
      obtain ⟨hfind, hshort, hrest⟩ := walk_cons_eq_ok_iff.mp h
      have hne : ({ absolute, names := done } : FilePath) ≠ q := by
        rintro rfl
        exact absurd (isDirectory_of_find hfind) (Bool.eq_false_iff.mp hq)
      rw [← find_write_of_ne hin content hne] at hfind
      exact walk_cons_eq_ok_iff.mpr ⟨hfind, hshort, ih hrest⟩

/-- The place of a file that can be written: no directory itself, and in one. -/
theorem place_of_target (h : t.target p = .ok q) :
    t.resolve p = .ok q ∧ t.isDirectory q = false ∧ t.InDirectory q := by
  rw [target] at h
  cases hresolve : t.resolve p with
  | error e =>
      rw [hresolve] at h
      cases h
  | ok place =>
      rw [hresolve] at h
      dsimp only at h
      split at h
      · cases h
      · rename_i hplace
        cases h
        refine ⟨rfl, Bool.eq_false_iff.mpr hplace, ?_⟩
        obtain ⟨-, -, names, hwalk, rfl⟩ := resolve_eq_ok_iff.mp hresolve
        have hroot : t.isDirectory { absolute := p.absolute, names := [] } = true := rfl
        exact (isDirectory_or_inDirectory_walk (Or.inl hroot) hwalk).resolve_left hplace

/-- What is written at a path is what the path leads to. -/
theorem get_write (h : t.target p = .ok q) (content : List UInt8) :
    (t.write q content).get p = .ok (.file content) := by
  obtain ⟨hresolve, hq, hin⟩ := place_of_target h
  obtain ⟨hnull, hshort, names, hwalk, hnames⟩ := resolve_eq_ok_iff.mp hresolve
  have hresolve' : (t.write q content).resolve p = .ok q :=
    resolve_eq_ok_iff.mpr ⟨hnull, hshort, names, walk_write content hin hq hwalk, hnames⟩
  rw [get, hresolve']
  exact congrArg Except.ok (find_write_self t q content)

end FileTree

end TypeGraph
