import Skeletal.Proofs.Synthesis.Blocks

/-!
# Stub texts read back

The text of a stub is a join that leaves empty clauses out, yet it tells its parts: a parenthesis
ends the words in front, a blank ends a type, a comma ends a parameter, and a brace ends the
exceptions (`StubParts.text_inj`). So members whose stubs have one text agree in all that is
written of them. A constructor stub hands on the parameters that it declares, which differ in
their names (`Universe.stubTexts_faithful`).
-/

set_option autoImplicit false

namespace Skeletal

open Text

/-! ## Names -/

/-- Characters that end a name in the text of a stub. -/
def nameBreaks : List Char := [' ', ',', '(', ')', '\x7b', '\x7d']

/-- Names that are not empty and hold no character that ends one. -/
def IsPlain (name : String) : Prop :=
  name ≠ "" ∧ ∀ c ∈ name.toList, c ∉ nameBreaks

instance (name : String) : Decidable (IsPlain name) :=
  haveI := List.decidableBAll (fun c => c ∉ nameBreaks) name.toList
  inferInstanceAs (Decidable (_ ∧ _))

theorem IsPlain.not_mem {name : String} {c : Char} (h : IsPlain name) (hc : c ∈ nameBreaks) :
    c ∉ name.toList :=
  fun hmem => h.2 c hmem hc

/-- Plain names are known by their join, if the separator begins with a character that ends a
name. -/
theorem eq_of_intercalate_plain {separator : String} {first : Char} {tail : List Char}
    {names others : List String} (hseparator : separator.toList = first :: tail)
    (hfirst : first ∈ nameBreaks) (hnames : ∀ name ∈ names, IsPlain name)
    (hothers : ∀ name ∈ others, IsPlain name)
    (h : separator.intercalate names = separator.intercalate others) : names = others := by
  apply intercalate_inj hseparator _ _ h
  · exact fun name hname => ⟨(hnames name hname).1, (hnames name hname).not_mem hfirst⟩
  · exact fun name hname => ⟨(hothers name hname).1, (hothers name hname).not_mem hfirst⟩

/-- The stem of a parameter name is plain, and no digit ends a name. -/
theorem isPlain_nameAt (number : Nat) : IsPlain (NameSupply.nameAt parameterStem number) := by
  have hstem : IsPlain parameterStem := by decide
  have hdigits : nameBreaks.all (fun c => !c.isDigit) = true := by decide
  rw [NameSupply.nameAt]
  constructor
  · rw [Ne, String.append_eq_empty_iff]
    intro h
    exact hstem.1 h.1
  · rw [String.toList_append, List.forall_mem_append]
    refine ⟨hstem.2, ?_⟩
    intro c hc hbreak
    have hnone := List.all_eq_true.1 hdigits c hbreak
    rw [isDigit_of_mem_toString hc] at hnone
    cases hnone

theorem isPlain_of_mem_parameterNames {name : String} {count : Nat}
    (h : name ∈ parameterNames count) : IsPlain name := by
  obtain ⟨number, rfl⟩ := exists_of_mem_parameterNames h
  exact isPlain_nameAt number

/-! ## Parts -/

/-- What a stub is written with: the words in front of its name, the name, the types of the
parameters and of the exceptions, and the body. -/
structure StubParts where
  words : List String
  name : String
  types : List String
  exceptions : List String
  body : String

namespace StubParts

/-- Text of the stub. -/
def text (p : StubParts) : String :=
  spaced (p.words ++ [p.name ++ parameterClause p.types (parameterNames p.types.length),
    throwsClause p.exceptions, "\x7b", p.body, "\x7d"])

/-- The body is not empty, and every name and word is plain. -/
structure Plain (p : StubParts) : Prop where
  body : p.body ≠ ""
  head : ∀ word ∈ p.words ++ [p.name], IsPlain word
  types : ∀ type ∈ p.types, IsPlain type
  exceptions : ∀ e ∈ p.exceptions, IsPlain e

/-- Declarations of the parameters. -/
def declarations (p : StubParts) : List String :=
  (p.types.zip (parameterNames p.types.length)).map fun d => spaced [d.1, d.2]

/-- The clauses one after another. -/
theorem text_eq (p : StubParts) (hbody : p.body ≠ "") : p.text =
    leading " " p.words ++ p.name ++ parameterClause p.types (parameterNames p.types.length) ++
      " " ++ leading " " [throwsClause p.exceptions] ++ "\x7b " ++ p.body ++ " \x7d" := by
  have hhead : p.name ++ parameterClause p.types (parameterNames p.types.length) ≠ "" := by
    simp [parameterClause, String.append_eq_empty_iff]
  have hblock : spaced ["\x7b", p.body, "\x7d"] = "\x7b " ++ p.body ++ " \x7d" := by
    rw [spaced, joinNonempty_of_nonempty (by simp [hbody])]
    simp [String.intercalate_cons_cons, String.append_assoc]
  have hshown : ∀ parts, "\x7b" ∈ parts → joinNonempty " " parts ≠ "" :=
    fun parts hmem => spaced_ne_empty "\x7b" hmem (by decide)
  -- the body stands at the end of every join, so what is before it leads to it
  have hjoined : p.text = leading " " p.words ++ (leading " " [p.name ++ parameterClause p.types
      (parameterNames p.types.length)] ++ (leading " " [throwsClause p.exceptions] ++
      spaced ["\x7b", p.body, "\x7d"])) := by
    rw [spaced, ← joinNonempty_append_of_ne (hshown _ (by simp)),
      ← joinNonempty_append_of_ne (hshown _ (by simp)),
      ← joinNonempty_append_of_ne (hshown _ (by simp))]
    rfl
  rw [hjoined, leading_singleton, if_neg hhead, hblock]
  simp only [String.append_assoc]

/-! ## Parts of a plain stub -/

variable {p q : StubParts}

theorem Plain.types_names (h : p.Plain) : ∀ d ∈ p.types.zip (parameterNames p.types.length),
    IsPlain d.1 ∧ IsPlain d.2 := by
  rintro ⟨type, name⟩ hd
  obtain ⟨htype, hname⟩ := List.of_mem_zip hd
  exact ⟨h.types type htype, isPlain_of_mem_parameterNames hname⟩

theorem spaced_pair {type name : String} (htype : type ≠ "") (hname : name ≠ "") :
    spaced [type, name] = type ++ " " ++ name := by
  rw [spaced, joinNonempty_pair, if_neg htype, if_neg hname]

/-- A declaration is not empty, and neither a comma nor a parenthesis stands in it. -/
theorem Plain.of_mem_declarations (h : p.Plain) : ∀ d ∈ p.declarations,
    d ≠ "" ∧ ',' ∉ d.toList ∧ ')' ∉ d.toList := by
  intro d hd
  obtain ⟨⟨type, name⟩, hmem, rfl⟩ := List.mem_map.1 hd
  obtain ⟨htype, hname⟩ := h.types_names _ hmem
  have hcomma : ',' ∈ nameBreaks := by decide
  have hclose : ')' ∈ nameBreaks := by decide
  rw [spaced_pair htype.1 hname.1]
  simp [htype.not_mem hcomma, htype.not_mem hclose, hname.not_mem hcomma, hname.not_mem hclose]

/-- The types are read off the declarations, each up to the blank. -/
theorem Plain.map_declarations (h : p.Plain) :
    p.declarations.map (fun d => d.toList.takeWhile (· ≠ ' ')) = p.types.map String.toList := by
  have hblank : ' ' ∈ nameBreaks := by decide
  have hread : ∀ d ∈ p.types.zip (parameterNames p.types.length),
      (spaced [d.1, d.2]).toList.takeWhile (· ≠ ' ') = d.1.toList := by
    intro d hd
    obtain ⟨htype, hname⟩ := h.types_names d hd
    rw [spaced_pair htype.1 hname.1, String.append_assoc, String.toList_append,
      String.toList_append]
    exact takeWhile_append_cons (htype.not_mem hblank) d.2.toList
  have hfirst : (p.types.zip (parameterNames p.types.length)).map Prod.fst = p.types :=
    List.map_fst_zip (by rw [length_parameterNames])
  calc p.declarations.map (fun d => d.toList.takeWhile (· ≠ ' '))
      = (p.types.zip (parameterNames p.types.length)).map fun d => d.1.toList := by
        rw [StubParts.declarations, List.map_map]
        exact List.map_congr_left hread
    _ = ((p.types.zip (parameterNames p.types.length)).map Prod.fst).map String.toList := by
        rw [List.map_map]
        rfl
    _ = p.types.map String.toList := by rw [hfirst]

theorem Plain.leading_words (h : p.Plain) :
    leading " " p.words ++ p.name = " ".intercalate (p.words ++ [p.name]) := by
  have hname := (h.head p.name (by simp)).1
  rw [← joinNonempty_of_nonempty fun word hword => (h.head word hword).1,
    joinNonempty_append_of_ne (by rwa [joinNonempty_singleton]), joinNonempty_singleton]

theorem Plain.not_mem_words (h : p.Plain) : '(' ∉ (" ".intercalate (p.words ++ [p.name])).toList :=
  not_mem_intercalate (by decide) fun word hword => (h.head word hword).not_mem (by decide)

theorem Plain.not_mem_declarations (h : p.Plain) :
    ')' ∉ (", ".intercalate p.declarations).toList :=
  not_mem_intercalate (by decide) fun d hd => (h.of_mem_declarations d hd).2.2

theorem Plain.not_mem_throws (h : p.Plain) :
    '\x7b' ∉ (leading " " [throwsClause p.exceptions]).toList := by
  have hjoin : '\x7b' ∉ (", ".intercalate p.exceptions).toList :=
    not_mem_intercalate (by decide) fun e he => (h.exceptions e he).not_mem (by decide)
  by_cases hempty : ", ".intercalate p.exceptions = ""
  · simp [throwsClause, labelled, hempty, leading_singleton]
  · have hclause : throwsClause p.exceptions = "throws " ++ ", ".intercalate p.exceptions :=
      labelled_of_ne (by decide) hempty
    rw [hclause, leading_singleton, if_neg (by simp [String.append_eq_empty_iff]),
      String.toList_append, String.toList_append, List.mem_append, List.mem_append, not_or, not_or]
    exact ⟨⟨by decide, hjoin⟩, by decide⟩

/-- The text at its first parenthesis, the one that closes it, and the brace behind. -/
theorem Plain.toList_text (h : p.Plain) : p.text.toList =
    (" ".intercalate (p.words ++ [p.name])).toList ++ (['('] ++
      ((", ".intercalate p.declarations).toList ++ ([')', ' '] ++
        ((leading " " [throwsClause p.exceptions]).toList ++ (['\x7b'] ++
          (" " ++ p.body ++ " \x7d").toList))))) := by
  rw [p.text_eq h.body, h.leading_words, parameterClause, ← StubParts.declarations]
  simp only [String.toList_append, List.append_assoc]
  rfl

/-- Plain stubs with one text have the same parts, but for the body. -/
theorem text_inj (hp : p.Plain) (hq : q.Plain) (h : p.text = q.text) :
    p.words ++ [p.name] = q.words ++ [q.name] ∧ p.types = q.types ∧
      p.exceptions = q.exceptions := by
  have hlists := congrArg String.toList h
  rw [hp.toList_text, hq.toList_text] at hlists
  obtain ⟨hwords, hrest⟩ := append_separator_inj hp.not_mem_words hq.not_mem_words hlists
  obtain ⟨hdeclarations, hrest⟩ :=
    append_separator_inj hp.not_mem_declarations hq.not_mem_declarations hrest
  obtain ⟨hthrows, -⟩ := append_separator_inj hp.not_mem_throws hq.not_mem_throws hrest
  refine ⟨eq_of_intercalate_plain rfl (by decide) hp.head hq.head (String.toList_injective hwords),
    ?_, eq_of_intercalate_plain rfl (by decide) hp.exceptions hq.exceptions
      (labelled_inj (by decide) (leading_singleton_inj (String.toList_injective hthrows)))⟩
  have hequal : p.declarations = q.declarations := by
    apply intercalate_inj rfl _ _ (String.toList_injective hdeclarations)
    · exact fun d hd => ⟨(hp.of_mem_declarations d hd).1, (hp.of_mem_declarations d hd).2.1⟩
    · exact fun d hd => ⟨(hq.of_mem_declarations d hd).1, (hq.of_mem_declarations d hd).2.1⟩
  apply List.map_injective_iff.2 fun _ _ => String.toList_injective
  rw [← hp.map_declarations, ← hq.map_declarations, hequal]

end StubParts

/-! ## Stubs of members -/

variable {u v : Universe} {m o : Member} {className : String}

/-- Words of the modifiers that the stub of a member carries. -/
def Member.stubWords (m : Member) : List String :=
  modifierOrder.filter fun word => word ∈ m.modifiers ∧ word ∉ stubExcludedModifiers

/-- What the stub of a method is written with. -/
def Universe.methodParts (u : Universe) (m : Member) (result : TypeId) : StubParts where
  words := m.stubWords ++ [u.canonical result]
  name := m.name
  types := m.parameters.map u.canonical
  exceptions := m.exceptions.map u.canonical
  body :=
    let value := (u.get result).defaultValue
    if value = "" then "return;" else s!"return {value};"

/-- What the stub of a constructor is written with. -/
def Universe.constructorParts (u : Universe) (className : String) (m : Member) : StubParts where
  words := m.stubWords
  name := className
  types := m.parameters.map u.canonical
  exceptions := m.exceptions.map u.canonical
  body :=
    let arguments := ", ".intercalate (parameterNames m.parameters.length)
    s!"super({arguments});"

theorem Member.stubModifiers_eq (m : Member) : m.stubModifiers = " ".intercalate m.stubWords := rfl

theorem isPlain_of_mem_stubWords {word : String} (h : word ∈ m.stubWords) : IsPlain word := by
  have hwords : ∀ word ∈ modifierOrder, IsPlain word := by decide
  exact hwords word (List.mem_filter.1 h).1

/-- The modifiers may be joined with what follows word by word. -/
theorem Member.spaced_stubModifiers_cons (m : Member) (parts : List String) :
    spaced (m.stubModifiers :: parts) = spaced (m.stubWords ++ parts) := by
  have hwords : m.stubModifiers = spaced m.stubWords := by
    rw [m.stubModifiers_eq, spaced,
      joinNonempty_of_nonempty fun word hword => (isPlain_of_mem_stubWords hword).1]
  rw [spaced, spaced, joinNonempty_append, ← List.singleton_append, joinNonempty_append,
    joinNonempty_singleton, hwords, spaced]

theorem Universe.text_methodStub (u : Universe) (m : Member) (result : TypeId) :
    (u.methodStub m result).text = (u.methodParts m result).text := by
  rw [methodStub, m.spaced_stubModifiers_cons, StubParts.text, methodParts, List.append_assoc,
    List.length_map]
  rfl

theorem Universe.text_constructorStub (u : Universe) (className : String) (m : Member) :
    (u.constructorStub className m).text = (u.constructorParts className m).text := by
  rw [constructorStub, m.spaced_stubModifiers_cons, StubParts.text, constructorParts,
    List.length_map]

/-- The name that a stub is written with is plain, and so are those of some types. -/
def Universe.PlainlyNamed (u : Universe) (name : String) (places : List TypeId) : Prop :=
  IsPlain name ∧ ∀ s ∈ places, IsPlain (u.canonical s)

instance (u : Universe) (name : String) (places : List TypeId) :
    Decidable (u.PlainlyNamed name places) :=
  inferInstanceAs (Decidable (_ ∧ _))

theorem Universe.PlainlyNamed.canonicals {name : String} {places others : List TypeId}
    (h : u.PlainlyNamed name places) (hothers : others ⊆ places) :
    ∀ canonical ∈ others.map u.canonical, IsPlain canonical := by
  intro canonical hcanonical
  obtain ⟨s, hs, rfl⟩ := List.mem_map.1 hcanonical
  exact h.2 s (hothers hs)

theorem Universe.PlainlyNamed.methodParts {result : TypeId} (h : u.PlainlyNamed m.name m.mentions)
    (hresult : m.result = some result) : (u.methodParts m result).Plain where
  body := by
    rw [Universe.methodParts]
    dsimp only
    split_ifs
    · decide
    · intro hempty
      exact absurd (String.append_eq_empty_iff.1 hempty).2 (by decide)
  head := by
    simp only [Universe.methodParts, List.forall_mem_append, List.forall_mem_singleton]
    exact ⟨⟨fun word => isPlain_of_mem_stubWords, h.2 result (by
      simp [Member.mentions, hresult])⟩, h.1⟩
  types := h.canonicals (by simp [Member.mentions])
  exceptions := h.canonicals (by simp [Member.mentions])

theorem Universe.constructorParts_body_ne (u : Universe) (className : String) (m : Member) :
    (u.constructorParts className m).body ≠ "" := by
  intro hempty
  exact absurd (String.append_eq_empty_iff.1 hempty).2 (by decide)

theorem Universe.PlainlyNamed.constructorParts
    (h : u.PlainlyNamed className (m.parameters ++ m.exceptions)) :
    (u.constructorParts className m).Plain where
  body := u.constructorParts_body_ne className m
  head := by
    simp only [Universe.constructorParts, List.forall_mem_append, List.forall_mem_singleton]
    exact ⟨fun word => isPlain_of_mem_stubWords, h.1⟩
  types := h.canonicals (List.subset_append_left _ _)
  exceptions := h.canonicals (List.subset_append_right _ _)

/-! ## Arguments -/

/-- Stretch between the last opening parenthesis of a text and the closing one behind it. -/
def lastParenthesized (text : List Char) : List Char :=
  (text.reverse.takeWhile (· ≠ '(')).reverse.takeWhile (· ≠ ')')

/-- What stands in the last parentheses of a text, taken apart at the commas. -/
def superArguments (text : String) : List String :=
  let inside := String.ofList (lastParenthesized text.toList)
  if inside = "" then [] else splitOn ", " inside

theorem lastParenthesized_append {before inside after : List Char} (hopen : '(' ∉ inside ++ after)
    (hclose : ')' ∉ inside) :
    lastParenthesized (before ++ '(' :: (inside ++ ')' :: after)) = inside := by
  have hback : '(' ∉ (inside ++ ')' :: after).reverse := by
    simpa [and_comm] using hopen
  have hreverse : (before ++ '(' :: (inside ++ ')' :: after)).reverse =
      (inside ++ ')' :: after).reverse ++ '(' :: before.reverse := by
    simp
  rw [lastParenthesized, hreverse, takeWhile_append_cons hback, List.reverse_reverse,
    takeWhile_append_cons hclose]

/-- The clauses of a constructor stub one after another. -/
theorem Universe.constructorStub_text (u : Universe) (className : String) (m : Member) :
    (u.constructorStub className m).text = leading " " m.stubWords ++ className ++
      parameterClause (m.parameters.map u.canonical) (parameterNames m.parameters.length) ++
      (" " ++ leading " " [throwsClause (m.exceptions.map u.canonical)]) ++
      ("\x7b super(" ++ ", ".intercalate (parameterNames m.parameters.length) ++ "); \x7d") := by
  have hopen : "\x7b super(" = "\x7b " ++ "super(" := rfl
  have hclose : "); \x7d" = ");" ++ " \x7d" := rfl
  rw [text_constructorStub, StubParts.text_eq _ (u.constructorParts_body_ne className m), hopen,
    hclose]
  simp only [constructorParts, List.length_map, String.append_assoc]
  rfl

theorem not_mem_arguments {c : Char} (hc : c ∈ nameBreaks) (hseparator : c ∉ ", ".toList)
    (count : Nat) : c ∉ (", ".intercalate (parameterNames count)).toList :=
  not_mem_intercalate hseparator fun _ hname => (isPlain_of_mem_parameterNames hname).not_mem hc

theorem lastParenthesized_constructorStub (u : Universe) (className : String) (m : Member) :
    lastParenthesized (u.constructorStub className m).text.toList =
      (", ".intercalate (parameterNames m.parameters.length)).toList := by
  have hopen : '(' ∉ (", ".intercalate (parameterNames m.parameters.length)).toList ++
      "; \x7d".toList := by
    rw [List.mem_append, not_or]
    exact ⟨not_mem_arguments (by decide) (by decide) _, by decide⟩
  have hclose : ')' ∉ (", ".intercalate (parameterNames m.parameters.length)).toList :=
    not_mem_arguments (by decide) (by decide) _
  obtain ⟨front, hfront⟩ : ∃ front, (u.constructorStub className m).text.toList =
      front ++ '(' :: ((", ".intercalate (parameterNames m.parameters.length)).toList ++
        ')' :: "; \x7d".toList) := by
    refine ⟨(leading " " m.stubWords ++ className ++ parameterClause (m.parameters.map u.canonical)
      (parameterNames m.parameters.length) ++
        (" " ++ leading " " [throwsClause (m.exceptions.map u.canonical)]) ++
        "\x7b super").toList, ?_⟩
    rw [u.constructorStub_text]
    simp only [String.toList_append, List.append_assoc]
    rfl
  rw [hfront, lastParenthesized_append hopen hclose]

/-- The arguments of a constructor stub are the names of its parameters. -/
theorem superArguments_constructorStub (u : Universe) (className : String) (m : Member) :
    superArguments (u.constructorStub className m).text = parameterNames m.parameters.length := by
  have hplain : ∀ name ∈ parameterNames m.parameters.length, IsPlain name :=
    fun _ => isPlain_of_mem_parameterNames
  rw [superArguments, lastParenthesized_constructorStub, String.ofList_toList]
  simp only [intercalate_eq_empty_iff fun name hname => (hplain name hname).1]
  split_ifs with hnone
  · exact hnone.symm
  · have hbreaks : ", ".toList ⊆ nameBreaks := by decide
    apply splitOn_intercalate (by decide) hnone
    intro name hname c hc hsep
    exact (hplain name hname).2 c hc (hbreaks hsep)

/-! ## What one text tells -/

/-- Two members are written with the same modifiers and types. -/
structure SameClauses (u v : Universe) (m o : Member) : Prop where
  modifiers : m.stubModifiers = o.stubModifiers
  parameters : m.parameters.map u.canonical = o.parameters.map v.canonical
  exceptions : m.exceptions.map u.canonical = o.exceptions.map v.canonical

/-- Methods whose stubs have one text agree in all that is written of them. -/
theorem same_of_methodStub_text {result other : TypeId} (hm : u.PlainlyNamed m.name m.mentions)
    (ho : v.PlainlyNamed o.name o.mentions) (hresult : m.result = some result)
    (hother : o.result = some other)
    (h : (u.methodStub m result).text = (v.methodStub o other).text) :
    m.name = o.name ∧ u.canonical result = v.canonical other ∧ SameClauses u v m o := by
  rw [Universe.text_methodStub, Universe.text_methodStub] at h
  obtain ⟨hhead, hparameters, hexceptions⟩ :=
    StubParts.text_inj (hm.methodParts hresult) (ho.methodParts hother) h
  obtain ⟨hwords, hname⟩ := List.append_inj' hhead rfl
  obtain ⟨hmodifiers, hcanonical⟩ := List.append_inj' hwords rfl
  refine ⟨List.singleton_inj.1 hname, List.singleton_inj.1 hcanonical, ?_, hparameters, hexceptions⟩
  rw [m.stubModifiers_eq, o.stubModifiers_eq, hmodifiers]

/-- Constructors of one class whose stubs have one text agree in all that is written of them. -/
theorem same_of_constructorStub_text (hm : u.PlainlyNamed className (m.parameters ++ m.exceptions))
    (ho : v.PlainlyNamed className (o.parameters ++ o.exceptions))
    (h : (u.constructorStub className m).text = (v.constructorStub className o).text) :
    SameClauses u v m o := by
  rw [Universe.text_constructorStub, Universe.text_constructorStub] at h
  obtain ⟨hhead, hparameters, hexceptions⟩ :=
    StubParts.text_inj hm.constructorParts ho.constructorParts h
  have hmodifiers : m.stubWords = o.stubWords := List.append_cancel_right hhead
  refine ⟨?_, hparameters, hexceptions⟩
  rw [m.stubModifiers_eq, o.stubModifiers_eq, hmodifiers]

/-- A constructor stub declares one parameter for each type, all with different names, and hands
exactly these on. -/
structure HandsOn (className : String) (types : List String) (stub : Stub) : Prop where
  count : stub.parameterNames.length = types.length
  distinct : stub.parameterNames.Nodup
  clauses : ∃ front throws, stub.text =
    front ++ className ++ parameterClause types stub.parameterNames ++ throws ++
      ("\x7b super(" ++ ", ".intercalate stub.parameterNames ++ "); \x7d")
  arguments : superArguments stub.text = stub.parameterNames

theorem handsOn_constructorStub (u : Universe) (className : String) (m : Member) :
    HandsOn className (m.parameters.map u.canonical) (u.constructorStub className m) where
  count := by
    rw [List.length_map]
    exact length_parameterNames _
  distinct := nodup_parameterNames _
  clauses := ⟨_, _, u.constructorStub_text className m⟩
  arguments := superArguments_constructorStub u className m

/-- The text of a stub tells the modifiers, the result, the name, the parameter types and the
exceptions, whatever universe they come from, if no name in it is empty or broken by a blank, a
comma, a parenthesis or a brace. A name may even be a modifier word, for the result and the name
are the last words in front of the parenthesis. A constructor stub hands on the parameters that it
declares. -/
theorem Universe.stubTexts_faithful (u v : Universe) (m o : Member) :
    (∀ stub other, u.methodStub? m = .ok stub → v.methodStub? o = .ok other →
      u.PlainlyNamed m.name m.mentions → v.PlainlyNamed o.name o.mentions →
      stub.text = other.text →
        m.name = o.name ∧ m.result.map u.canonical = o.result.map v.canonical ∧
          SameClauses u v m o) ∧
    (∀ className, u.PlainlyNamed className (m.parameters ++ m.exceptions) →
      v.PlainlyNamed className (o.parameters ++ o.exceptions) →
      (u.constructorStub className m).text = (v.constructorStub className o).text →
        SameClauses u v m o) ∧
    ∀ className, HandsOn className (m.parameters.map u.canonical) (u.constructorStub className m) := by
  refine ⟨?_, fun className => same_of_constructorStub_text,
    fun className => handsOn_constructorStub u className m⟩
  intro stub other hstub hother hm ho htext
  obtain ⟨result, hresult, rfl⟩ := methodStub?_eq_ok_iff.1 hstub
  obtain ⟨result', hresult', rfl⟩ := methodStub?_eq_ok_iff.1 hother
  obtain ⟨hname, hcanonical, hclauses⟩ := same_of_methodStub_text hm ho hresult hresult' htext
  refine ⟨hname, ?_, hclauses⟩
  rw [hresult, hresult', Option.map_some, Option.map_some, hcanonical]

/-- The types of `gauge` at other places. -/
def shuffledGauge : Universe :=
  ⟨#[{ name := "Fault", canonical := "p.Fault" },
     { name := "int", canonical := "int", kind := .primitive }]⟩

/-- A method with the given modifiers in a universe with the given places. -/
def scaleMethod (words : List String) (int fault : TypeId) : Member :=
  { name := "scale", modifiers := words, parameters := [int, int], exceptions := [fault]
    result := some int }

/-- A constructor in a universe with the given places. -/
def scaleConstructor (int fault : TypeId) : Member :=
  { name := "Gauge", kind := .constructor, modifiers := ["protected"], parameters := [int, int]
    exceptions := [fault] }

/-- Methods, and constructors, of one text with their types at different places. -/
theorem stubTexts_faithful_shuffledGauge :
    (∃ stub other,
      gauge.methodStub? (scaleMethod ["abstract", "public"] 0 1) = .ok stub ∧
      shuffledGauge.methodStub? (scaleMethod ["public"] 1 0) = .ok other ∧
      stub.text = other.text ∧
      SameClauses gauge shuffledGauge (scaleMethod ["abstract", "public"] 0 1)
        (scaleMethod ["public"] 1 0)) ∧
    (gauge.constructorStub "GaugeImpl" (scaleConstructor 0 1)).text =
      (shuffledGauge.constructorStub "GaugeImpl" (scaleConstructor 1 0)).text ∧
    SameClauses gauge shuffledGauge (scaleConstructor 0 1) (scaleConstructor 1 0) ∧
    HandsOn "GaugeImpl" ["int", "int"] (gauge.constructorStub "GaugeImpl" (scaleConstructor 0 1)) := by
  have hconstructors := Universe.stubTexts_faithful gauge shuffledGauge (scaleConstructor 0 1)
    (scaleConstructor 1 0)
  have htext : (gauge.constructorStub "GaugeImpl" (scaleConstructor 0 1)).text =
      (shuffledGauge.constructorStub "GaugeImpl" (scaleConstructor 1 0)).text := by
    decide
  refine ⟨⟨_, _, rfl, rfl, by decide, ?_⟩, htext,
    hconstructors.2.1 "GaugeImpl" (by decide) (by decide) htext, hconstructors.2.2 "GaugeImpl"⟩
  exact ((Universe.stubTexts_faithful gauge shuffledGauge _ _).1 _ _ rfl rfl (by decide) (by decide)
    (by decide)).2.2

end Skeletal
