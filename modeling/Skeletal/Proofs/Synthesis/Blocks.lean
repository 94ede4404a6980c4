import Skeletal.Proofs.Naming
import Skeletal.Proofs.Synthesis.Outcome
import Skeletal.Proofs.Text.Joined

/-!
# Blocks of a class text

A class text is the flat join of its blocks: the package declaration where there is a package, the
header, one block for each constructor that is not private, one for each abstract method, and the
closing brace (`assemble_eq_flat`, `nestedJoins_flat`). No block is empty, and none holds a line
break unless a name does. Splitting the text at empty lines therefore gives back exactly these
blocks, whatever the line separator (`splitOn_synthesize`).
-/

set_option autoImplicit false

namespace Skeletal

open Text

/-- Constructors that the class text for `t` hands on; an interface has none. -/
def Universe.accessibleConstructors (u : Universe) (t : TypeId) : List Member :=
  if (u.get t).isInterface then [] else (u.get t).constructors.filter fun c => !c.isPrivate

/-- No name in the class text for `t` holds a line break: those of its package, of the generated
class and of the type itself, those of the methods, and those of the types that the written
members mention. -/
structure Settings.NamesOneLine (settings : Settings) (u : Universe) (t : TypeId) : Prop where
  package : OneLine (u.get t).package
  className : OneLine (settings.className (u.get t))
  canonical : OneLine (u.canonical t)
  method : ∀ m ∈ u.obligations t, OneLine m.name
  mentioned : ∀ m ∈ u.accessibleConstructors t ++ u.obligations t, ∀ s ∈ m.mentions,
    OneLine (u.canonical s)

variable {settings : Settings} {u : Universe} {t : TypeId} {text : String} {m : Member}

/-! ## Clauses -/

theorem oneLine_renderModifiers (words excluded : List String) :
    OneLine (renderModifiers words excluded) := by
  have hwords : ∀ word ∈ modifierOrder, OneLine word := by decide
  exact OneLine.intercalate (by decide) fun word h => hwords word (List.mem_filter.1 h).1

theorem oneLine_parameterNames {name : String} {count : Nat} (h : name ∈ parameterNames count) :
    OneLine name := by
  obtain ⟨number, rfl⟩ := exists_of_mem_parameterNames h
  exact OneLine.append (by decide) (oneLine_toString number)

theorem oneLine_parameterClause {types names : List String} (htypes : ∀ a ∈ types, OneLine a)
    (hnames : ∀ a ∈ names, OneLine a) : OneLine (parameterClause types names) := by
  refine (OneLine.append (by decide) ?_).append (by decide)
  refine OneLine.intercalate (by decide) ?_
  intro part hpart
  obtain ⟨⟨type, name⟩, hmem, rfl⟩ := List.mem_map.1 hpart
  obtain ⟨htype, hname⟩ := List.of_mem_zip hmem
  exact oneLine_spaced (by simp [htypes type htype, hnames name hname])

theorem oneLine_throwsClause {exceptions : List String} (h : ∀ a ∈ exceptions, OneLine a) :
    OneLine (throwsClause exceptions) :=
  oneLine_labelled (by decide) (OneLine.intercalate (by decide) h)

/-- Parts that are joined by blanks show if one of them does. -/
theorem spaced_ne_empty {parts : List String} (part : String) (h : part ∈ parts)
    (hpart : part ≠ "") : spaced parts ≠ "" := by
  rw [spaced, Ne, joinNonempty_eq_empty_iff, List.filter_eq_nil_iff]
  intro hall
  exact hall part h (by simpa using hpart)

/-! ## Blocks -/

/-- Where there is a package, its declaration is a block of one line. -/
theorem oneLine_packageDeclaration {d : Descriptor} (hd : OneLine d.package) (h : d.package ≠ "") :
    d.packageDeclaration ≠ "" ∧ OneLine d.packageDeclaration := by
  have hdeclaration : d.packageDeclaration = "package " ++ d.package ++ ";" := by
    rw [Descriptor.packageDeclaration, if_neg h]
    rfl
  rw [hdeclaration]
  refine ⟨?_, (OneLine.append (by decide) hd).append (by decide)⟩
  simp [String.append_eq_empty_iff]

theorem oneLine_classHeader (hnames : settings.NamesOneLine u t) :
    OneLine (settings.classHeader (u.get t)) := by
  have hrelation : OneLine (if (u.get t).isInterface then "implements" else "extends") := by
    split <;> decide
  apply oneLine_spaced
  simp only [List.forall_mem_cons]
  exact ⟨oneLine_renderModifiers _ _, by decide, hnames.className, hrelation, hnames.canonical,
    by decide, by simp⟩

theorem classHeader_ne_empty (settings : Settings) (d : Descriptor) :
    settings.classHeader d ≠ "" :=
  spaced_ne_empty "class" (by simp) (by decide)

theorem oneLine_defaultValue (d : Descriptor) : OneLine d.defaultValue := by
  rw [Descriptor.defaultValue]
  split_ifs <;> decide

theorem oneLine_canonicals {places : List TypeId} (hplaces : ∀ s ∈ places, s ∈ m.mentions)
    (hmentioned : ∀ s ∈ m.mentions, OneLine (u.canonical s)) :
    ∀ a ∈ places.map u.canonical, OneLine a := by
  intro a ha
  obtain ⟨s, hs, rfl⟩ := List.mem_map.1 ha
  exact hmentioned s (hplaces s hs)

/-- The name that a member is written with, and its parameters. -/
theorem oneLine_callable {name : String} (hname : OneLine name)
    (hmentioned : ∀ s ∈ m.mentions, OneLine (u.canonical s)) :
    OneLine (name ++ parameterClause (m.parameters.map u.canonical)
      (parameterNames m.parameters.length)) := by
  refine hname.append (oneLine_parameterClause (oneLine_canonicals ?_ hmentioned) fun _ =>
    oneLine_parameterNames)
  intro s hs
  simp [Member.mentions, hs]

theorem oneLine_throws (hmentioned : ∀ s ∈ m.mentions, OneLine (u.canonical s)) :
    OneLine (throwsClause (m.exceptions.map u.canonical)) := by
  refine oneLine_throwsClause (oneLine_canonicals ?_ hmentioned)
  intro s hs
  simp [Member.mentions, hs]

theorem oneLine_methodStub {r : TypeId} (hname : OneLine m.name) (hr : m.result = some r)
    (hmentioned : ∀ s ∈ m.mentions, OneLine (u.canonical s)) :
    OneLine (u.methodStub m r).text := by
  have hbody : OneLine (if (u.get r).defaultValue = "" then "return;"
      else "return " ++ (u.get r).defaultValue ++ ";") := by
    split
    · decide
    · exact (OneLine.append (by decide) (oneLine_defaultValue _)).append (by decide)
  apply oneLine_spaced
  simp only [List.forall_mem_cons]
  exact ⟨oneLine_renderModifiers _ _, hmentioned r (by simp [Member.mentions, hr]),
    oneLine_callable hname hmentioned, oneLine_throws hmentioned, by decide, hbody, by decide,
    by simp⟩

theorem oneLine_constructorStub {className : String} (hname : OneLine className)
    (hmentioned : ∀ s ∈ m.mentions, OneLine (u.canonical s)) :
    OneLine (u.constructorStub className m).text := by
  have harguments : OneLine ("super(" ++
      ", ".intercalate (parameterNames m.parameters.length) ++ ");") := by
    refine (OneLine.append (by decide) ?_).append (by decide)
    exact OneLine.intercalate (by decide) fun _ => oneLine_parameterNames
  apply oneLine_spaced
  simp only [List.forall_mem_cons]
  exact ⟨oneLine_renderModifiers _ _, oneLine_callable hname hmentioned,
    oneLine_throws hmentioned, by decide, harguments, by decide, by simp⟩

theorem methodStub_ne_empty (u : Universe) (m : Member) (r : TypeId) :
    (u.methodStub m r).text ≠ "" :=
  spaced_ne_empty "\x7b" (by simp) (by decide)

theorem constructorStub_ne_empty (u : Universe) (className : String) (m : Member) :
    (u.constructorStub className m).text ≠ "" :=
  spaced_ne_empty "\x7b" (by simp) (by decide)

theorem eq_map_of_constructorStubs {className : String} {stubs : List Stub}
    (h : u.constructorStubs className t = .ok stubs) :
    stubs = (u.accessibleConstructors t).map (u.constructorStub className) := by
  rw [Universe.constructorStubs] at h
  rw [Universe.accessibleConstructors]
  split_ifs at h ⊢ with hi
  · exact (Except.ok.inj h).symm
  · split at h
    · cases h
    · rename_i hopen
      exact (Except.ok.inj h).symm

/-! ## The class text -/

/-- The blocks of a class text. -/
def Settings.blockList (settings : Settings) (d : Descriptor) (constructors methods : List String) :
    List String :=
  (if d.package = "" then [] else [d.packageDeclaration]) ++ [settings.classHeader d] ++
    constructors ++ methods ++ ["\x7d"]

theorem Settings.blocks_flatten (settings : Settings) (groups : List (List String)) :
    settings.blocks (groups.map settings.blocks) = settings.blocks groups.flatten :=
  joinNonempty_flatten _ groups

theorem Settings.blocks_singleton (settings : Settings) (block : String) :
    settings.blocks [block] = block :=
  joinNonempty_singleton block

/-- The joins of a class text come down to one, which the declaration of the package is part of
whether it is empty or not. -/
theorem Settings.assemble_eq_flat (settings : Settings) (d : Descriptor)
    (constructors methods : List String) :
    settings.assemble d constructors methods =
      settings.blocks ([d.packageDeclaration, settings.classHeader d] ++ constructors ++ methods ++
        ["\x7d"]) := by
  calc settings.assemble d constructors methods
      = settings.blocks [d.packageDeclaration, settings.blocks
          ([[settings.classHeader d], constructors, methods, ["\x7d"]].map settings.blocks)] := by
        simp only [assemble, List.map_cons, List.map_nil, blocks_singleton]
    _ = settings.blocks ([[d.packageDeclaration],
          [settings.classHeader d] ++ constructors ++ methods ++ ["\x7d"]].map
            settings.blocks) := by
        rw [blocks_flatten, List.map_cons, List.map_singleton, blocks_singleton]
        simp
    _ = settings.blocks ([d.packageDeclaration, settings.classHeader d] ++ constructors ++
          methods ++ ["\x7d"]) := by
        rw [blocks_flatten]
        simp

theorem Settings.assemble_eq_blocks (settings : Settings) (d : Descriptor)
    (constructors methods : List String) :
    settings.assemble d constructors methods =
      settings.blocks (settings.blockList d constructors methods) := by
  rw [assemble_eq_flat, blockList]
  split_ifs with h
  · -- the declaration of no package is empty, and an empty part leaves nothing behind
    have hpackage : d.packageDeclaration = "" := if_pos h
    rw [hpackage]
    rfl
  · rfl

/-- Joins of joins are flat, whatever parts and groups are empty: what is left are the parts that
are not empty, in order, with one separator between neighbours. So is a class text: the declaration
of the package, the header, the constructors, the methods and the closing brace. -/
theorem Settings.nestedJoins_flat (separator : String) (groups : List (List String))
    (settings : Settings) (d : Descriptor) (constructors methods : List String) :
    joinNonempty separator (groups.map (joinNonempty separator)) =
        joinNonempty separator groups.flatten ∧
      joinNonempty separator groups.flatten =
        separator.intercalate (groups.flatten.filter fun part => part ≠ "") ∧
      settings.assemble d constructors methods =
        (settings.lineSeparator.text ++ settings.lineSeparator.text).intercalate
          (([d.packageDeclaration, settings.classHeader d] ++ constructors ++ methods ++
            ["\x7d"]).filter fun part => part ≠ "") := by
  refine ⟨joinNonempty_flatten separator groups, rfl, ?_⟩
  rw [assemble_eq_flat, blocks, joinNonempty]

/-- Separators are made of characters that end a line. -/
theorem separator_subset_lineBreaks (separator : LineSeparator) :
    (separator.text ++ separator.text).toList ⊆ lineBreaks := by
  cases separator <;> decide

/-- Blocks of one line that are not empty are recovered from their join. -/
theorem Settings.splitOn_blocks {parts : List String} (hparts : parts ≠ [])
    (h : ∀ part ∈ parts, part ≠ "" ∧ OneLine part) :
    splitOn (settings.lineSeparator.text ++ settings.lineSeparator.text) (settings.blocks parts) =
      parts := by
  have hne : settings.lineSeparator.text ++ settings.lineSeparator.text ≠ "" := by
    cases settings.lineSeparator <;> decide
  apply splitOn_joinNonempty hne hparts fun part hp => (h part hp).1
  intro part hp c hc hsep
  exact (h part hp).2 c hc (separator_subset_lineBreaks _ hsep)

/-- Splitting a class text at its empty lines gives the declaration of the package, if there is
one, the header, a constructor for each constructor that is not private, a method for each abstract
method, and the closing brace. The abstract methods differ in their signatures. -/
theorem Settings.splitOn_synthesize (haccepted : settings.synthesize u t = .ok text)
    (hnames : settings.NamesOneLine u t) :
    ∃ members stubs, u.abstractMethods t = .ok members ∧ (members.map u.signature).Nodup ∧
      List.Forall₂ (fun m stub => ∃ r, m.result = some r ∧ u.methodStub m r = stub)
        members stubs ∧
      splitOn (settings.lineSeparator.text ++ settings.lineSeparator.text) text =
        (if (u.get t).package = "" then [] else [(u.get t).packageDeclaration]) ++
          [settings.classHeader (u.get t)] ++
          (u.accessibleConstructors t).map (fun c =>
            (u.constructorStub (settings.className (u.get t)) c).text) ++
          stubs.map Stub.text ++ ["\x7d"] := by
  obtain ⟨-, -, members, stubs, constructors, hmembers, hstubs, hconstructors, rfl⟩ :=
    synthesize_eq_ok_iff.1 haccepted
  obtain ⟨-, -, rfl⟩ := Universe.abstractMethods_eq_ok_iff.1 hmembers
  obtain rfl := eq_map_of_constructorStubs hconstructors
  have hpairs := mapM_eq_ok_iff.1 hstubs
  simp only [Universe.methodStub?_eq_ok_iff] at hpairs
  refine ⟨_, stubs, hmembers, Universe.nodup_signature_obligations u t, hpairs, ?_⟩
  -- it is left to show that each block is one line and not empty
  rw [assemble_eq_blocks, splitOn_blocks (by simp [blockList]), blockList, List.map_map]
  · rfl
  simp only [blockList, List.forall_mem_append, List.forall_mem_singleton, List.map_map]
  refine ⟨⟨⟨⟨?_, classHeader_ne_empty _ _, oneLine_classHeader hnames⟩, ?_⟩, ?_⟩, by decide,
    by decide⟩
  · split_ifs with hpackage
    · exact List.forall_mem_nil _
    · exact List.forall_mem_singleton.2 (oneLine_packageDeclaration hnames.package hpackage)
  · intro block hblock
    obtain ⟨c, hc, rfl⟩ := List.mem_map.1 hblock
    exact ⟨constructorStub_ne_empty u _ c, oneLine_constructorStub hnames.className
      (hnames.mentioned c (List.mem_append_left _ hc))⟩
  · intro block hblock
    obtain ⟨stub, hstub, rfl⟩ := List.mem_map.1 hblock
    obtain ⟨m, hm, r, hr, rfl⟩ := exists_mem_of_forall₂ hpairs hstub
    exact ⟨methodStub_ne_empty u m r, oneLine_methodStub (hnames.method m hm) hr
      (hnames.mentioned m (List.mem_append_right _ hm))⟩

/-- An abstract class of a package with two constructors, one of them private, and two abstract
methods. -/
def gauge : Universe :=
  ⟨#[{ name := "int", canonical := "int", kind := .primitive },
     { name := "Fault", canonical := "p.Fault" },
     { name := "Gauge", canonical := "p.Gauge", package := "p", modifiers := ["public", "abstract"]
       constructors :=
         [{ name := "Gauge", kind := .constructor, modifiers := ["private"] },
           { name := "Gauge", kind := .constructor, parameters := [0] }]
       methods :=
         [{ name := "read", modifiers := ["public", "abstract"], exceptions := [1],
            result := some 0, declaring := some 2 },
           { name := "scale", modifiers := ["protected", "abstract"], parameters := [0, 0],
             result := some 0, declaring := some 2 }] }]⟩

theorem synthesize_gauge : Settings.synthesize { lineSeparator := .crlf } gauge 2 =
    .ok ("package p;\r\n\r\npublic class GaugeImpl extends p.Gauge \x7b\r\n\r\n" ++
      "GaugeImpl(int _0) \x7b super(_0); \x7d\r\n\r\n" ++
      "public int read() throws p.Fault \x7b return 0; \x7d\r\n\r\n" ++
      "protected int scale(int _0, int _1) \x7b return 0; \x7d\r\n\r\n\x7d") := by
  cbv

theorem namesOneLine_gauge : Settings.NamesOneLine { lineSeparator := .crlf } gauge 2 where
  package := by decide
  className := by decide
  canonical := by decide
  method := by
    have hobligations : (gauge.obligations 2).map Member.name = ["read", "scale"] := by cbv
    have hnames : ∀ name ∈ (gauge.obligations 2).map Member.name, OneLine name := by
      rw [hobligations]
      decide
    exact fun m hm => hnames m.name (List.mem_map_of_mem hm)
  mentioned := by
    have hinside : ∀ s < gauge.size, OneLine (gauge.canonical s) := by decide
    intro m _ s _
    by_cases hs : s < gauge.size
    · exact hinside s hs
    -- behind the last place stands the blank type, which has no name
    · rw [Universe.canonical, Universe.get_of_size_le (Nat.le_of_not_lt hs)]
      decide

/-- The class text of `gauge` falls into its five blocks. -/
theorem splitOn_synthesize_gauge :
    (∃ text, Settings.synthesize { lineSeparator := .crlf } gauge 2 = .ok text) ∧
      Settings.NamesOneLine { lineSeparator := .crlf } gauge 2 ∧
      ∃ members stubs, gauge.abstractMethods 2 = .ok members ∧
        (members.map gauge.signature).Nodup ∧
        List.Forall₂ (fun m stub => ∃ r, m.result = some r ∧ gauge.methodStub m r = stub)
          members stubs ∧
        splitOn "\r\n\r\n"
            ("package p;\r\n\r\npublic class GaugeImpl extends p.Gauge \x7b\r\n\r\n" ++
              "GaugeImpl(int _0) \x7b super(_0); \x7d\r\n\r\n" ++
              "public int read() throws p.Fault \x7b return 0; \x7d\r\n\r\n" ++
              "protected int scale(int _0, int _1) \x7b return 0; \x7d\r\n\r\n\x7d") =
          ["package p;", "public class GaugeImpl extends p.Gauge \x7b"] ++
            ["GaugeImpl(int _0) \x7b super(_0); \x7d"] ++ stubs.map Stub.text ++ ["\x7d"] := by
  refine ⟨⟨_, synthesize_gauge⟩, namesOneLine_gauge, ?_⟩
  exact Settings.splitOn_synthesize synthesize_gauge namesOneLine_gauge

end Skeletal
