import Skeletal.Proofs.FileTree.Barred
import Skeletal.Proofs.Output.Implement
import Skeletal.Proofs.Synthesis.Outcome
import Skeletal.Proofs.Text.Escape

/-!
# The source flow

A type that is refused leaves everything as it was: the gate and the synthesis come before any file
is touched. A path that is returned holds the generated source, in plain ASCII and so in one byte
for each character, and nothing else is changed but directories on the way to it
(`implement_leavesSource`).
-/

set_option autoImplicit false

namespace Skeletal

open FileTree (PlacesFile)

variable {s : Settings} {u : Universe} {t : TypeId} {source : String}

/-! ## Generated sources are plain ASCII -/

namespace Text

theorem lt_of_mem_escape {text : String} {c : Char} (h : c ∈ (escape text).toList) :
    c.toNat < 128 := by
  rw [escape, String.toList_ofList, List.mem_flatMap] at h
  obtain ⟨d, -, hc⟩ := h
  exact lt_of_mem_escapeChar hc

/-- A text in plain ASCII is encoded in one byte for each character. -/
theorem bytes_of_lt (h : ∀ c ∈ source.toList, c.toNat < 128) :
    source.toUTF8.data.toList.map UInt8.toNat = source.toList.map Char.toNat := by
  have hencoded : ∀ c ∈ source.toList, String.utf8EncodeChar c = [c.val.toUInt8] := by
    intro c hc
    refine String.utf8EncodeChar_eq_singleton (Char.utf8Size_eq_one_iff.2 ?_)
    exact UInt32.le_iff_toNat_le.2 (Nat.le_of_lt_succ (h c hc))
  have hbytes : source.toUTF8.data.toList = source.toList.map fun c => c.val.toUInt8 := by
    rw [← String.ofList_toList (s := source), String.toUTF8, String.toByteArray_ofList,
      List.utf8Encode, List.toList_data_toByteArray, String.toList_ofList,
      List.flatMap_congr hencoded, ← List.map_eq_flatMap]
  rw [hbytes, List.map_map]
  refine List.map_congr_left fun c hc => ?_
  have hsmall : c.val.toNat < 256 := (h c hc).trans (by decide)
  exact Nat.mod_eq_of_lt hsmall

end Text

theorem Settings.lt_of_mem_generateSource (h : s.generateSource u t = .ok source) :
    ∀ c ∈ source.toList, c.toNat < 128 := by
  rw [generateSource] at h
  cases hsynthesize : s.synthesize u t with
  | error e =>
      rw [hsynthesize] at h
      cases h
  | ok text =>
      rw [hsynthesize] at h
      obtain rfl := Except.ok.inj h
      exact fun c hc => Text.lt_of_mem_escape hc

namespace Implementing

variable {root : FilePath} {w w' : Workshop} {p : FilePath} {text : String}

/-! ## What is left -/

/-- How the source flow may leave the workshop. -/
structure LeavesSource (s : Settings) (u : Universe) (t : TypeId) (root : Option FilePath)
    (w : Workshop) (after : Except ImplementError FilePath × Workshop) : Prop where
  /-- What is refused leaves the workshop as it was. -/
  refused : ∀ e, u.checkImplementable t = .error e ∨ s.generateSource u t = .error e →
    after = (.error (.synthesis e), w)
  /-- The path that is returned holds the source, with one byte for each of its characters. Nothing
  else is changed but directories on the way to it. -/
  returned : ∀ path, after.1 = .ok path → ∃ directory source, root = some directory ∧
    path = s.outputPath directory (u.get t) s.generatedExtension ∧
    s.generateSource u t = .ok source ∧
    after.2.tree.entryAt? path = some (.file (.text source)) ∧
    (∀ c ∈ source.toList, c.toNat < 128) ∧
    source.toUTF8.data.toList.map UInt8.toNat = source.toList.map Char.toNat ∧
    FileTree.PlacesFile path.parent path.place w.tree after.2.tree

/-- A source that was written stands at its path. -/
theorem entryAt?_of_writeSource (h : runFrom (writeSource p text) w = (.ok (), w')) :
    w'.tree.entryAt? p = some (.file (.text text)) := by
  obtain ⟨⟨⟩, w₁, -, hwritten⟩ := runFrom_bind_eq_ok_iff.1 h
  have hwrite := writeOrCleanUp_ok hwritten
  rcases FileAction.write_cases p (.text text) w₁.tree with ⟨⟨e, hfails⟩, -⟩ | ⟨htakes, hinserts⟩
  · cases hfails.symm.trans hwrite
  · have htree : w'.tree = w₁.tree.insert p.place (.file (.text text)) :=
      (Prod.mk.inj (hwrite.symm.trans hinserts)).2
    rw [htree]
    exact htakes.entryAt?_insert _

/-- A source that was generated is what the source flow writes, and it returns where. -/
theorem implement_ok (h : runFrom (implement s u t (some root)) w = (.ok p, w')) :
    ∃ text, s.generateSource u t = .ok text ∧
      p = s.outputPath root (u.get t) s.generatedExtension ∧
      w'.tree.entryAt? p = some (.file (.text text)) := by
  obtain ⟨-, w₁, -, h⟩ := runFrom_bind_eq_ok_iff.1 h
  obtain ⟨text, w₂, hgenerated, h⟩ := runFrom_bind_eq_ok_iff.1 h
  obtain ⟨⟨⟩, w₃, hwritten, h⟩ := runFrom_bind_eq_ok_iff.1 h
  obtain ⟨hpath, rfl⟩ := Prod.mk.inj h
  obtain rfl := Except.ok.inj hpath
  rw [runFrom_ofSynthesis] at hgenerated
  cases hsource : s.generateSource u t with
  | error e =>
      rw [hsource] at hgenerated
      cases hgenerated
  | ok source =>
      rw [hsource] at hgenerated
      obtain rfl := Except.ok.inj (Prod.mk.inj hgenerated).1
      exact ⟨source, rfl, rfl, entryAt?_of_writeSource hwritten⟩

/-- What synthesis refuses, the source flow refuses before it touches a file. -/
theorem runFrom_implement_of_error {e : SynthesisError} (root : Option FilePath) (w : Workshop)
    (h : s.generateSource u t = .error e) :
    runFrom (implement s u t root) w = (.error (.synthesis e), w) := by
  rw [implement, runFrom_bind, runFrom_ofSynthesis]
  cases hgate : u.checkImplementable t with
  | error refusal =>
      have hsame := (Settings.generateSource_of_refused (s := s) hgate).symm.trans h
      rw [Except.error.inj hsame]
  | ok _ =>
      simp only [runFrom_bind, runFrom_ofSynthesis, h]

/-- What synthesis gives is written. -/
theorem runFrom_implement_of_ok (root : FilePath) (w : Workshop)
    (h : s.generateSource u t = .ok source) :
    runFrom (implement s u t (some root)) w =
      match runFrom (writeSource (s.outputPath root (u.get t) s.generatedExtension) source) w with
      | (.ok _, w') => (.ok (s.outputPath root (u.get t) s.generatedExtension), w')
      | (.error e, w') => (.error e, w') := by
  rw [implement, runFrom_bind, runFrom_ofSynthesis,
    Settings.checkImplementable_of_generateSource h]
  simp only [runFrom_bind, runFrom_ofSynthesis, h, runFrom_pure]
  rcases runFrom (writeSource (s.outputPath root (u.get t) s.generatedExtension) source) w with
    ⟨e | a, w'⟩
  · rfl
  · rfl

/-- However the source flow ends: a type that is refused leaves everything as it was, and a path
that is returned holds the source, where nothing else is changed but directories on its way. -/
theorem implement_leavesSource (s : Settings) (u : Universe) (t : TypeId)
    (root : Option FilePath) (w : Workshop) :
    LeavesSource s u t root w (outcome (implement s u t root) w) := by
  constructor
  case refused =>
    intro e h
    refine runFrom_implement_of_error root w ?_
    exact h.elim Settings.generateSource_of_refused id
  case returned =>
    intro path hpath
    have hrun : runFrom (implement s u t root) w =
        (.ok path, (outcome (implement s u t root) w).2) := Prod.ext hpath rfl
    cases root with
    | none =>
        -- without a root nothing is written
        obtain ⟨⟨⟩, w₁, -, h⟩ := runFrom_bind_eq_ok_iff.1 hrun
        obtain ⟨source, w₂, -, h⟩ := runFrom_bind_eq_ok_iff.1 h
        cases h
    | some directory =>
        obtain ⟨source, hsource, rfl, hstands⟩ := implement_ok hrun
        have hascii := Settings.lt_of_mem_generateSource hsource
        exact ⟨directory, source, rfl, rfl, hsource, hstands, hascii, Text.bytes_of_lt hascii,
          ((moves_implement s u t directory).of_run hrun).tree⟩

end Implementing

end Skeletal
