import ShaderTree.Proofs.DeclarationReader

/-!
# The lines of a source

A source is written line by line: the lines of the preamble, one line for each
variable that is declared outside of `main`, and `main` itself.
`Statement.sourceLines` are these lines.  If no name holds a line break, they are the
lines of the source as a text; a name with a line break would be spread over several.

A declaration begins with the word of its class, and nothing but a declaration does.
So the names that are declared with the word of a class are the names of the variables
of this class, in the order in which the tree first mentions them.
-/

namespace ShaderTree

open Glsl

/-- Lines as one text, each of them closed by a line break. -/
def unlines (lines : List String) : String := String.join (lines.map (· ++ "\n"))

/-- The lines of a text that are closed by a line break. -/
def textLines (text : String) : List String :=
  (text.toList.splitOn '\n').dropLast.map String.ofList

/-- A text without a line break. -/
def OneLine (text : String) : Prop := '\n' ∉ text.toList

instance (text : String) : Decidable (OneLine text) :=
  inferInstanceAs (Decidable ('\n' ∉ text.toList))

section Lines

variable {a b : String} {lines : List String}

@[simp] theorem oneLine_append : OneLine (a ++ b) ↔ OneLine a ∧ OneLine b := by
  simp [OneLine]

theorem oneLine_join : OneLine (String.join lines) ↔ ∀ line ∈ lines, OneLine line := by
  simp [OneLine, String.toList_join]

theorem unlines_append (lines lines' : List String) :
    unlines (lines ++ lines') = unlines lines ++ unlines lines' := by
  rw [unlines, List.map_append, String.join_append]
  rfl

theorem unlines_eq_intercalate (lines : List String) :
    unlines lines = "\n".intercalate (lines ++ [""]) := by
  induction lines with
  | nil => rfl
  | cons line lines ih =>
      have hne : lines ++ [""] ≠ [] := by simp
      rw [List.cons_append, String.intercalate_cons_of_ne_nil hne, ← ih, unlines, List.map_cons,
        String.join_cons]
      rfl

/-- Lines without line breaks are the lines of their text. -/
theorem textLines_unlines (h : ∀ line ∈ lines, OneLine line) :
    textLines (unlines lines) = lines := by
  have hbreak : "\n".toList = ['\n'] := rfl
  have hlines : ∀ cs ∈ (lines ++ [""]).map String.toList, '\n' ∉ cs := by
    intro cs hcs
    obtain ⟨line, hline, rfl⟩ := List.mem_map.mp hcs
    rcases List.mem_append.mp hline with hline | hline
    · exact h line hline
    · rw [List.mem_singleton.mp hline]
      decide
  rw [textLines, unlines_eq_intercalate, String.toList_intercalate, hbreak,
    List.splitOn_intercalate '\n' hlines (by simp), List.map_append, List.map_singleton,
    List.dropLast_concat, List.map_map]
  simp [Function.comp_def]

end Lines

namespace Glsl.Options

/-- The line that sets one default precision. -/
def precisionText (p : Precision) (type : String) : String :=
  "precision " ++ p.qualifier ++ " " ++ type ++ ";"

/-- The lines that set the default precisions. -/
def precisionTexts (o : Options) : List String :=
  [precisionText o.floatPrecision "float", precisionText o.intPrecision "int",
    precisionText o.samplerPrecision "sampler2D", precisionText o.samplerPrecision "samplerCube"]

/-- The lines that open a source. -/
def preambleLines (o : Options) : List String :=
  match o.dialect with
  | .desktop => "#ifdef GL_ES" :: o.precisionTexts ++ ["#endif"]
  | .es => o.precisionTexts

theorem preamble_eq_unlines (o : Options) : o.preamble = unlines o.preambleLines := by
  have hline : ∀ p type, precisionLine p type = precisionText p type ++ "\n" := by
    intro p type
    simp only [precisionLine, precisionText, String.append_assoc]
    rfl
  have hlines : o.precisionLines = unlines o.precisionTexts := by
    simp [precisionLines, hline, unlines, precisionTexts, String.join, String.append_assoc]
  unfold preamble preambleLines
  cases o.dialect with
  | desktop => simp [hlines, unlines, String.join_cons, String.join_append, String.append_assoc]
  | es => exact hlines

theorem cases_of_mem_preambleLines {o : Options} {line : String} (h : line ∈ o.preambleLines) :
    line = "#ifdef GL_ES" ∨ line = "#endif" ∨ line ∈ o.precisionTexts := by
  unfold preambleLines at h
  split at h
  · simp only [List.mem_cons, List.mem_append, List.not_mem_nil, or_false] at h
    rcases h with (h | h) | h
    · exact .inl h
    · exact .inr (.inr h)
    · exact .inr (.inl h)
  · exact .inr (.inr h)

theorem oneLine_of_mem_preambleLines {o : Options} {line : String} (h : line ∈ o.preambleLines) :
    OneLine line := by
  have hqualifier : ∀ p : Precision, OneLine p.qualifier := by
    intro p
    cases p <;> decide
  have htexts : ∀ line ∈ o.precisionTexts, OneLine line := by
    simp only [precisionTexts, precisionText, List.forall_mem_cons, oneLine_append, hqualifier]
    decide
  rcases cases_of_mem_preambleLines h with rfl | rfl | h
  · decide
  · decide
  · exact htexts line h

end Glsl.Options

/-- The text of a tree with what declares its temporaries, on one line. -/
def Statement.mainLine (stage : Stage) (s : Statement) : String :=
  "void main() \x7b" ++ String.join (s.temps.map fun t => declarationText "" t.ty t.name ";") ++
    s.text stage.outputName ++ "\x7d"

/-- The lines of the source of a tree, as they are written. -/
def Statement.sourceLines (stage : Stage) (options : Options) (s : Statement) : List String :=
  options.preambleLines ++ s.globals.map (·.declarationText ";") ++ [s.mainLine stage]

theorem Variable.declarationText_append (v : Variable) :
    v.declarationText ";" ++ "\n" = v.declarationText ";\n" := by
  simp only [declarationText, Glsl.declarationText, String.append_assoc]
  rfl

/-- A source is the text of its lines. -/
theorem sourceText_eq_unlines (stage : Stage) (options : Options) (s : Statement) :
    sourceText options s.attributes s.uniforms s.varyings s.temps (s.text stage.outputName) =
      unlines (s.sourceLines stage options) := by
  have hglobals : unlines (s.globals.map (·.declarationText ";")) =
      String.join (s.globals.map (·.declarationText ";\n")) := by
    rw [unlines, List.map_map]
    exact congrArg String.join (List.map_congr_left fun v _ => v.declarationText_append)
  rw [Statement.sourceLines, unlines_append, unlines_append, ← options.preamble_eq_unlines,
    hglobals, Statement.globals]
  simp only [List.map_append, List.map_map, String.join_append, unlines, Statement.mainLine,
    List.map_cons, List.map_nil, String.join_cons, String.join_nil, String.append_assoc, sourceText]
  rfl

section OneLine

theorem oneLine_of_isWord {word : String} (h : isWord word) : OneLine word := by
  intro hmem
  have hbreak := isWordChar_of_isWord h '\n' hmem
  cases hbreak

theorem oneLine_literalText {text : String} (h : OneLine text) : OneLine (literalText text) := by
  unfold literalText
  split
  · simp only [oneLine_append]
    exact ⟨⟨by decide, h⟩, by decide⟩
  · exact h

theorem notMem_of_sign {sign : List Char} (h : sign = [] ∨ sign = ['-']) : '\n' ∉ sign := by
  rcases h with rfl | rfl
  · exact List.not_mem_nil
  · decide

theorem oneLine_toString (e : Int) : OneLine (toString e) := by
  obtain ⟨sign, digits, hsign, hdigits, -, htext⟩ := exists_sign_digits e
  rw [OneLine, htext, List.mem_append, not_or]
  exact ⟨notMem_of_sign hsign, hdigits.notMem (by decide)⟩

theorem FloatForm.notMem_break {cs : List Char} (h : FloatForm cs) : '\n' ∉ cs := by
  have hbreak : '\n'.isDigit = false := rfl
  cases h with
  | positional hwhole _ hfraction _ => simp [hwhole.notMem hbreak, hfraction.notMem hbreak]
  | @scientific digit fraction sign exponent hdigit hfraction hsign hexponent _ =>
      have hdigit' : '\n' ≠ digit := by
        rintro rfl
        cases hdigit
      have hpoint : '\n' ∉ (if fraction = [] then [] else '.' :: fraction) := by
        split <;> simp [hfraction.notMem hbreak]
      simp [hdigit', hpoint, notMem_of_sign hsign, hexponent.notMem hbreak]

theorem oneLine_of_literal? {x : Binary32} {text : String} (hx : x.literal? = some text) :
    OneLine text := by
  rw [OneLine, Binary32.toList_of_literal? hx, List.mem_append, not_or]
  refine ⟨?_, x.floatForm_magnitudeText.notMem_break⟩
  cases x.isNegative <;> decide

theorem oneLine_spelling {v : Variable} (h : OneLine v.name) (stage : Stage) :
    OneLine (v.spelling stage.outputName) := by
  by_cases hv : v = .output
  · rw [hv]
    cases stage <;> decide
  · rwa [Variable.spelling_eq_name hv]

theorem oneLine_of_checkMask {ty : Ty} {mask : String} (h : fault? (checkMask ty mask) = none) :
    OneLine mask := by
  obtain ⟨c, cs, hmask, hall⟩ := exists_cons_of_checkMask h
  intro hmem
  rw [hmask] at hmem
  cases (hall '\n' hmem).1

/-- A visit at which nothing offends and a name, if there is one, is on one line. -/
def Visit.IsOneLine (stage : Stage) (v : Visit) : Prop :=
  v.offence? stage = none ∧ ∀ w ∈ v.mention?, OneLine w.name

variable {stage : Stage}

mutual

theorem Operand.oneLine_text : ∀ {o : Operand}, (∀ v ∈ o.visits, v.IsOneLine stage) →
    OneLine (o.text stage.outputName)
  | .var v, h => by
      have hv := (h (.ofVariable v) (by simp [visits])).2 v (Visit.mention?_ofVariable v)
      exact oneLine_spelling hv stage
  | .int n, _ => oneLine_literalText (oneLine_toString n.toInt)
  | .float x, h => by
      obtain ⟨text, hx⟩ := exists_literal?_of_offence? (h (.float x) (by simp [visits])).1
      rw [Operand.text, hx]
      exact oneLine_literalText (oneLine_of_literal? hx)
  | .bool b, _ => oneLine_of_isWord (isWord_toString_bool b)
  | .binop op left right, h => by
      simp only [visits, List.forall_mem_cons, List.forall_mem_append] at h
      obtain ⟨-, -, hleft, hright⟩ := h
      have hsymbol : OneLine op.symbol := by cases op <;> decide
      simp only [text, oneLine_append]
      exact ⟨⟨⟨⟨by decide, oneLine_text hleft⟩, hsymbol⟩, oneLine_text hright⟩, by decide⟩
  | .vector ty parts, h => by
      simp only [visits, List.forall_mem_cons] at h
      obtain ⟨-, hvector, hparts⟩ := h
      obtain ⟨word, hword⟩ := exists_glslName?_of_offence? hvector.1
      simp only [text, hword, Option.getD_some, oneLine_append]
      exact ⟨⟨⟨oneLine_of_isWord (Ty.isWord_of_glslName? hword), by decide⟩,
        oneLine_textAll (by decide) hparts⟩, by decide⟩
  | .swizzle source mask, h => by
      simp only [visits, List.forall_mem_cons] at h
      obtain ⟨-, hswizzle, hsource⟩ := h
      simp only [text, oneLine_append]
      exact ⟨oneLine_text hsource, by decide, oneLine_of_checkMask hswizzle.1⟩
  | .call f args, h => by
      simp only [visits, List.forall_mem_cons] at h
      obtain ⟨-, -, hargs⟩ := h
      simp only [text, oneLine_append]
      exact ⟨⟨⟨oneLine_of_isWord f.isWord_name, by decide⟩, oneLine_textAll (by decide) hargs⟩,
        by decide⟩

theorem Operand.oneLine_textAll {separator : String} (hseparator : OneLine separator) :
    ∀ {os : List Operand}, (∀ v ∈ visitsAll os, v.IsOneLine stage) →
      OneLine (textAll stage.outputName separator os)
  | [], _ => by simp [textAll, OneLine]
  | [o], h => by
      simp only [visitsAll, List.append_nil] at h
      exact oneLine_text h
  | o :: p :: rest, h => by
      rw [visitsAll, List.forall_mem_append] at h
      simp only [textAll, oneLine_append]
      exact ⟨⟨oneLine_text h.1, hseparator⟩, oneLine_textAll hseparator h.2⟩

end

mutual

/-- A tree whose names have no line breaks is written on one line. -/
theorem Statement.oneLine_text : ∀ {s : Statement}, (∀ v ∈ s.visits, v.IsOneLine stage) →
    OneLine (s.text stage.outputName)
  | .block body, h => by
      simp only [visits, List.forall_mem_cons] at h
      obtain ⟨-, -, hbody⟩ := h
      simp only [text, oneLine_append]
      exact ⟨⟨by decide, oneLine_textAll hbody⟩, by decide⟩
  | .assign target source, h => by
      simp only [visits, List.forall_mem_cons, List.forall_mem_append] at h
      obtain ⟨-, -, htarget, hsource⟩ := h
      simp only [text, oneLine_append]
      exact ⟨⟨⟨Operand.oneLine_text htarget, by decide⟩, Operand.oneLine_text hsource⟩, by decide⟩
  | .ifThen condition body, h => by
      simp only [visits, List.forall_mem_cons, List.forall_mem_append] at h
      obtain ⟨-, -, hcondition, hbody⟩ := h
      simp only [text, oneLine_append]
      exact ⟨⟨⟨by decide, Operand.oneLine_text hcondition⟩, by decide⟩, oneLine_text hbody⟩
  | .ifThenElse condition body otherwise, h => by
      simp only [visits, List.forall_mem_cons, List.forall_mem_append] at h
      obtain ⟨-, -, ⟨hcondition, hbody⟩, hotherwise⟩ := h
      simp only [text, oneLine_append]
      exact ⟨⟨⟨⟨⟨by decide, Operand.oneLine_text hcondition⟩, by decide⟩, oneLine_text hbody⟩,
        by decide⟩, oneLine_text hotherwise⟩

theorem Statement.oneLine_textAll : ∀ {body : List Statement},
    (∀ v ∈ visitsAll body, v.IsOneLine stage) → OneLine (textAll stage.outputName body)
  | [], _ => by simp [textAll, OneLine]
  | s :: rest, h => by
      rw [visitsAll, List.forall_mem_append] at h
      simp only [textAll, oneLine_append]
      exact ⟨oneLine_text h.1, oneLine_textAll h.2⟩

end

end OneLine

namespace Statement

variable {stage : Stage} {s : Statement}

theorem oneLine_declared (h : s.IsAccepted stage) (hname : ∀ v ∈ s.mentions, OneLine v.name)
    {v : Variable} (hv : v ∈ s.declared) : OneLine (v.declarationText ";") := by
  obtain ⟨word, hword⟩ := Option.isSome_iff_exists.mp (h.declarable v hv)
  have hstorage : OneLine v.storage := by cases v <;> simp only [Variable.storage] <;> decide
  simp only [Variable.declarationText, declarationText, hword, Option.getD_some, oneLine_append]
  exact ⟨⟨⟨⟨hstorage, oneLine_of_isWord (Ty.isWord_of_glslName? hword)⟩, by decide⟩,
    hname v (mem_declared.mp hv).1⟩, by decide⟩

theorem oneLine_mainLine (h : s.IsAccepted stage) (hname : ∀ v ∈ s.mentions, OneLine v.name) :
    OneLine (s.mainLine stage) := by
  have htemps : OneLine
      (String.join (s.temps.map fun t => declarationText "" t.ty t.name ";")) := by
    rw [oneLine_join]
    intro text htext
    obtain ⟨t, ht, rfl⟩ := List.mem_map.mp htext
    exact oneLine_declared (v := .temp t) h hname
      (List.mem_append_right _ (List.mem_map_of_mem ht))
  have htext : OneLine (s.text stage.outputName) := by
    refine oneLine_text fun v hv => ⟨h.unbroken v hv, fun w hw => hname w ?_⟩
    exact List.mem_filterMap.mpr ⟨v, hv, hw⟩
  simp only [mainLine, oneLine_append]
  exact ⟨⟨⟨by decide, htemps⟩, htext⟩, by decide⟩

/-- If no name has a line break, the lines of a source are those that were written. -/
theorem textLines_sourceText (h : s.IsAccepted stage) (hname : ∀ v ∈ s.mentions, OneLine v.name)
    (options : Options) :
    textLines (sourceText options s.attributes s.uniforms s.varyings s.temps
      (s.text stage.outputName)) = s.sourceLines stage options := by
  rw [sourceText_eq_unlines]
  refine textLines_unlines fun line hline => ?_
  rw [sourceLines, List.mem_append, List.mem_append] at hline
  rcases hline with (hline | hline) | hline
  · exact Options.oneLine_of_mem_preambleLines hline
  · obtain ⟨v, hv, rfl⟩ := List.mem_map.mp hline
    exact oneLine_declared h hname (List.mem_append_left _ hv)
  · rw [List.mem_singleton.mp hline]
    exact oneLine_mainLine h hname

end Statement

/-- The words with which the declarations outside of `main` begin. -/
def classWords : List String := ["attribute ", "uniform ", "varying "]

theorem mem_classWords {word : String} :
    word ∈ classWords ↔ word = "attribute " ∨ word = "uniform " ∨ word = "varying " := by
  simp [classWords]

/-- The name that a line declares, if the line begins with `storage` and the word of a
type. -/
def declaredName? (storage line : String) : Option String := do
  let rest ← expect storage line.toList
  let _ ← Ty.ofWord? (String.ofList (rest.takeWhile (· ≠ ' ')))
  let name ← expect " " (rest.dropWhile (· ≠ ' '))
  if name.getLast? = some ';' then some (String.ofList name.dropLast) else none

/-- The names that are declared with the word `storage`, line by line. -/
def declaredNames (storage : String) (lines : List String) : List String :=
  lines.filterMap (declaredName? storage)

section Declared

variable {storage line : String} {v : Variable} {s : Statement}

theorem declaredName?_declarationText (hword : v.ty.glslName?.isSome) :
    declaredName? v.storage (v.declarationText ";") = some v.name := by
  obtain ⟨word, hword⟩ := Option.isSome_iff_exists.mp hword
  have hspace : ' ' ∉ word.toList := fun hmem =>
    absurd (isWordChar_of_isWord (Ty.isWord_of_glslName? hword) ' ' hmem) (by decide)
  have htext : (v.declarationText ";").toList =
      v.storage.toList ++ (word.toList ++ ' ' :: (v.name.toList ++ [';'])) := by
    simp [Variable.declarationText, Glsl.declarationText, hword]
  have hexpect : expect " " (' ' :: (v.name.toList ++ [';'])) = some (v.name.toList ++ [';']) :=
    expect_append " " _
  rw [declaredName?, htext, expect_append]
  simp only [Option.bind_eq_bind, Option.bind_some, takeWhile_ne_append_cons hspace,
    dropWhile_ne_append_cons hspace, String.ofList_toList, Ty.ofWord?_of_glslName? hword, hexpect]
  simp

theorem declaredName?_eq_none (h : expect storage line.toList = none) :
    declaredName? storage line = none := by
  rw [declaredName?, h]
  rfl

/-- A text that begins with the word of one class does not begin with that of another. -/
theorem expect_append_of_ne {word : String} (hstorage : storage ∈ classWords)
    (hword : word ∈ classWords) (hne : word ≠ storage) (cs : List Char) :
    expect storage (word.toList ++ cs) = none := by
  rcases mem_classWords.mp hstorage with rfl | rfl | rfl <;>
    rcases mem_classWords.mp hword with rfl | rfl | rfl
  exacts [absurd rfl hne, rfl, rfl, rfl, absurd rfl hne, rfl, rfl, rfl, absurd rfl hne]

theorem expect_declarationText (hstorage : storage ∈ classWords) (hv : v.storage ∈ classWords)
    (hne : v.storage ≠ storage) : expect storage (v.declarationText ";").toList = none := by
  have htext := toList_declarationText v ";" []
  rw [List.append_nil] at htext
  rw [htext]
  exact expect_append_of_ne hstorage hv hne _

theorem expect_of_mem_preambleLines {options : Options} (hstorage : storage ∈ classWords)
    (hline : line ∈ options.preambleLines) : expect storage line.toList = none := by
  have hprecision : ∀ p type, expect storage (Options.precisionText p type).toList = none := by
    intro p type
    simp only [Options.precisionText, String.toList_append, List.append_assoc]
    rcases mem_classWords.mp hstorage with rfl | rfl | rfl <;> rfl
  rcases Options.cases_of_mem_preambleLines hline with rfl | rfl | hline
  · rcases mem_classWords.mp hstorage with rfl | rfl | rfl <;> rfl
  · rcases mem_classWords.mp hstorage with rfl | rfl | rfl <;> rfl
  · simp only [Options.precisionTexts, List.mem_cons, List.not_mem_nil, or_false] at hline
    rcases hline with rfl | rfl | rfl | rfl <;> exact hprecision _ _

theorem expect_mainLine (hstorage : storage ∈ classWords) (stage : Stage) (s : Statement) :
    expect storage (s.mainLine stage).toList = none := by
  simp only [Statement.mainLine, String.toList_append, List.append_assoc]
  rcases mem_classWords.mp hstorage with rfl | rfl | rfl <;> rfl

theorem storage_mem_classWords {root : Statement} (hv : v ∈ root.globals) :
    v.storage ∈ classWords := by
  simp only [Statement.globals, List.mem_append, List.mem_map] at hv
  rcases hv with (⟨a, -, rfl⟩ | ⟨u, -, rfl⟩) | ⟨w, -, rfl⟩
  all_goals simp [Variable.storage, classWords]

/-- Nothing but a declaration begins with the word of a class. -/
theorem exists_global_of_mem_sourceLines {stage : Stage} {options : Options}
    (hstorage : storage ∈ classWords) (hline : line ∈ s.sourceLines stage options)
    (hbegin : expect storage line.toList ≠ none) :
    ∃ v ∈ s.globals, v.storage = storage ∧ line = v.declarationText ";" := by
  rw [Statement.sourceLines, List.mem_append, List.mem_append] at hline
  rcases hline with (hline | hline) | hline
  · exact absurd (expect_of_mem_preambleLines hstorage hline) hbegin
  · obtain ⟨v, hv, rfl⟩ := List.mem_map.mp hline
    refine ⟨v, hv, ?_, rfl⟩
    by_contra hne
    exact hbegin (expect_declarationText hstorage (storage_mem_classWords hv) hne)
  · rw [List.mem_singleton.mp hline] at hbegin
    exact absurd (expect_mainLine hstorage stage s) hbegin

/-- A line that begins like the declaration of a varying is one. -/
theorem exists_varying_of_mem_sourceLines {stage : Stage} {options : Options} {rest : String}
    (h : "varying " ++ rest ∈ s.sourceLines stage options) :
    ∃ w ∈ s.varyings, "varying " ++ rest = (Variable.varying w).declarationText ";" := by
  have hbegin : expect "varying " ("varying " ++ rest).toList ≠ none := by
    rw [String.toList_append, expect_append]
    exact Option.some_ne_none _
  obtain ⟨v, hv, hstorage, hline⟩ :=
    exists_global_of_mem_sourceLines (by simp [classWords]) h hbegin
  simp only [Statement.globals, List.mem_append, List.mem_map] at hv
  rcases hv with (⟨a, -, rfl⟩ | ⟨u, -, rfl⟩) | ⟨w, hw, rfl⟩
  · exact absurd hstorage (by simp [Variable.storage])
  · exact absurd hstorage (by simp [Variable.storage])
  · exact ⟨w, hw, hline⟩

theorem declarationText_mem_sourceLines {w : Varying} (hw : w ∈ s.varyings) (stage : Stage)
    (options : Options) :
    (Variable.varying w).declarationText ";" ∈ s.sourceLines stage options := by
  have hglobal : .varying w ∈ s.globals := List.mem_append_right _ (List.mem_map_of_mem hw)
  rw [Statement.sourceLines, List.mem_append, List.mem_append]
  exact .inl (.inr (List.mem_map_of_mem hglobal))

/-- The names that are declared with the word of a class are those of the variables of
this class. -/
theorem declaredNames_sourceLines (hstorage : storage ∈ classWords)
    (hword : ∀ v ∈ s.declared, v.ty.glslName?.isSome) (stage : Stage) (options : Options) :
    declaredNames storage (s.sourceLines stage options) =
      (s.globals.filter (·.storage = storage)).map Variable.name := by
  have hpreamble : options.preambleLines.filterMap (declaredName? storage) = [] :=
    List.filterMap_eq_nil_iff.mpr fun line hline =>
      declaredName?_eq_none (expect_of_mem_preambleLines hstorage hline)
  have hmain : [s.mainLine stage].filterMap (declaredName? storage) = [] :=
    List.filterMap_cons_none (declaredName?_eq_none (expect_mainLine hstorage stage s))
  rw [declaredNames, Statement.sourceLines, List.filterMap_append, List.filterMap_append, hpreamble,
    hmain, List.nil_append, List.append_nil, List.filterMap_map, ← List.filterMap_eq_map,
    List.filterMap_filter]
  refine List.filterMap_congr fun v hv => ?_
  by_cases hv' : v.storage = storage
  · rw [if_pos (by simpa using hv'), ← hv']
    exact declaredName?_declarationText (hword v (List.mem_append_left _ hv))
  · rw [if_neg (by simpa using hv')]
    exact declaredName?_eq_none
      (expect_declarationText hstorage (storage_mem_classWords hv) hv')

section Classes

variable (hword : ∀ v ∈ s.declared, v.ty.glslName?.isSome) (stage : Stage) (options : Options)

include hword

theorem declaredNames_attribute :
    declaredNames "attribute " (s.sourceLines stage options) = s.attributes.map (·.name) := by
  rw [declaredNames_sourceLines (by simp [classWords]) hword]
  simp [Statement.globals, List.filter_map, Function.comp_def, Variable.storage, Variable.name,
    Variable.spelling]

theorem declaredNames_uniform :
    declaredNames "uniform " (s.sourceLines stage options) = s.uniforms.map (·.name) := by
  rw [declaredNames_sourceLines (by simp [classWords]) hword]
  simp [Statement.globals, List.filter_map, Function.comp_def, Variable.storage, Variable.name,
    Variable.spelling]

end Classes

end Declared

end ShaderTree
