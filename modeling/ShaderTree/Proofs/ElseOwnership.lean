import ShaderTree.Proofs.Readability

/-!
# Which conditional owns an `else`

A branch of a conditional is written as it is, without braces around it.  If the
branch before an `else` ends in a conditional that has none, a reader gives the
`else` to that one.  `Statement.rebound` is the tree in which every `else` has gone
to the conditional that a reader gives it to.

A tree and its `rebound` mention the same variables, offend at the same nodes and
have the same text, so a generator cannot tell them apart.  The `rebound` of a tree
is well nested, and it is the tree itself only if the tree was well nested before.
-/

namespace ShaderTree

open Glsl

namespace Visit

/-- Whether a visit is to a statement and not to an operand or a part of one. -/
def isControl : Visit → Bool
  | .statement _ | .block _ | .assign _ _ | .conditional _ _ => true
  | _ => false

theorem mention?_of_isControl : ∀ {v : Visit}, v.isControl → v.mention? = none
  | .statement _, _ | .block _, _ | .assign _ _, _ | .conditional _ _, _ => rfl

theorem offence?_of_isControl (stage : Stage) :
    ∀ {v : Visit}, v.isControl → v.offence? stage = none
  | .statement _, _ | .block _, _ | .assign _ _, _ | .conditional _ _, _ => rfl

end Visit

namespace Statement

/-- A statement whose last open conditional is given an `else`. -/
def withElse : Statement → Statement → Statement
  | .block body, _ => .block body
  | .assign target source, _ => .assign target source
  | .ifThen condition body, otherwise =>
    if body.endsOpen then .ifThen condition (body.withElse otherwise)
    else .ifThenElse condition body otherwise
  | .ifThenElse condition body other, otherwise =>
    .ifThenElse condition body (other.withElse otherwise)

mutual

/-- A statement in which every `else` belongs to the nearest conditional before it
that has none. -/
def rebound : Statement → Statement
  | .block body => .block (reboundAll body)
  | .assign target source => .assign target source
  | .ifThen condition body => .ifThen condition body.rebound
  | .ifThenElse condition body otherwise =>
    if body.rebound.endsOpen then
      .ifThen condition (body.rebound.withElse otherwise.rebound)
    else
      .ifThenElse condition body.rebound otherwise.rebound

/-- Several statements, each by itself. -/
def reboundAll : List Statement → List Statement
  | [] => []
  | s :: rest => s.rebound :: reboundAll rest

end

section WithElse

variable {s otherwise : Statement}

theorem text_withElse (output : String) : ∀ {s : Statement}, s.endsOpen →
    (s.withElse otherwise).text output =
      s.text output ++ " else " ++ otherwise.text output
  | .ifThen condition body, _ => by
      rw [withElse]
      split
      · next hbody => simp only [text, text_withElse output hbody, String.append_assoc]
      · simp only [text]
  | .ifThenElse condition body other, h => by
      have hother := text_withElse output (s := other) h
      simp only [withElse, text, hother, String.append_assoc]

theorem WellNested.withElse (hs : s.WellNested) (hopen : s.endsOpen)
    (hotherwise : otherwise.WellNested) : (s.withElse otherwise).WellNested := by
  induction hs with
  | block => cases hopen
  | assign => cases hopen
  | @ifThen condition body hbody ih =>
      rw [Statement.withElse]
      split
      · next hbodyOpen => exact .ifThen (ih hbodyOpen)
      · next hclosed => exact .ifThenElse hbody (by simpa using hclosed) hotherwise
  | ifThenElse hbody hclosed _ _ ih => exact .ifThenElse hbody hclosed (ih hopen)

theorem filterMap_visits_withElse {β : Type} {f : Visit → Option β}
    (hf : ∀ v, v.isControl → f v = none) : ∀ {s : Statement}, s.endsOpen →
      (s.withElse otherwise).visits.filterMap f =
        s.visits.filterMap f ++ otherwise.visits.filterMap f
  | .ifThen condition body, _ => by
      rw [withElse]
      split
      · next hbody =>
          have ih := filterMap_visits_withElse hf (s := body) hbody
          simp [visits, hf (.statement _) rfl, hf (.conditional _ _) rfl, ih]
      · simp [visits, hf (.statement _) rfl, hf (.conditional _ _) rfl]
  | .ifThenElse condition body other, h => by
      have ih := filterMap_visits_withElse hf (s := other) h
      simp [withElse, visits, hf (.statement _) rfl,
        hf (.conditional _ _) rfl, ih]

end WithElse

mutual

/-- A reader cannot see who owned an `else`. -/
theorem text_rebound (output : String) : ∀ s : Statement, s.rebound.text output = s.text output
  | .block body => by rw [rebound, text, text, textAll_reboundAll output body]
  | .assign target source => rfl
  | .ifThen condition body => by rw [rebound, text, text, text_rebound output body]
  | .ifThenElse condition body otherwise => by
      have hbody := text_rebound output body
      have hotherwise := text_rebound output otherwise
      rw [rebound]
      split
      · next hopen =>
          simp only [text, text_withElse output hopen, hbody, hotherwise, String.append_assoc]
      · simp only [text, hbody, hotherwise]

theorem textAll_reboundAll (output : String) : ∀ body : List Statement,
    textAll output (reboundAll body) = textAll output body
  | [] => rfl
  | s :: rest => by
      rw [reboundAll, textAll, textAll, text_rebound output s, textAll_reboundAll output rest]

end

mutual

theorem wellNested_rebound : ∀ s : Statement, s.rebound.WellNested
  | .block body => by
      rw [rebound]
      exact .block (wellNested_reboundAll body)
  | .assign target source => .assign target source
  | .ifThen condition body => by
      rw [rebound]
      exact .ifThen (wellNested_rebound body)
  | .ifThenElse condition body otherwise => by
      have hbody := wellNested_rebound body
      have hotherwise := wellNested_rebound otherwise
      rw [rebound]
      split
      · next hopen => exact .ifThen (hbody.withElse hopen hotherwise)
      · next hclosed => exact .ifThenElse hbody (by simpa using hclosed) hotherwise

theorem wellNested_reboundAll : ∀ body : List Statement, ∀ s ∈ reboundAll body, s.WellNested
  | [], _, hs => by cases hs
  | t :: rest, s, hs => by
      rw [reboundAll] at hs
      rcases List.mem_cons.mp hs with rfl | hs
      · exact wellNested_rebound t
      · exact wellNested_reboundAll rest s hs

end

theorem reboundAll_eq_self : ∀ {body : List Statement}, (∀ s ∈ body, s.rebound = s) →
    reboundAll body = body
  | [], _ => rfl
  | s :: rest, h => by
      rw [reboundAll, h s List.mem_cons_self,
        reboundAll_eq_self fun t ht => h t (List.mem_cons_of_mem _ ht)]

theorem WellNested.rebound_eq {s : Statement} (h : s.WellNested) : s.rebound = s := by
  induction h with
  | block _ ih => rw [rebound, reboundAll_eq_self ih]
  | assign => rfl
  | ifThen _ ih => rw [rebound, ih]
  | ifThenElse _ hclosed _ ihbody ihotherwise =>
      rw [rebound, ihbody, ihotherwise, hclosed, if_neg Bool.false_ne_true]

section Visits

variable {β : Type} {f : Visit → Option β}

mutual

/-- What is found at operands is found at the same places. -/
theorem filterMap_visits_rebound (hf : ∀ v, v.isControl → f v = none) : ∀ s : Statement,
    s.rebound.visits.filterMap f = s.visits.filterMap f
  | .block body => by
      have hbody := filterMap_visitsAll_reboundAll hf body
      simp [rebound, visits, hf (.statement _) rfl, hf (.block _) rfl, hbody]
  | .assign target source => rfl
  | .ifThen condition body => by
      have hbody := filterMap_visits_rebound hf body
      simp [rebound, visits, hf (.statement _) rfl,
        hf (.conditional _ _) rfl, hbody]
  | .ifThenElse condition body otherwise => by
      have hbody := filterMap_visits_rebound hf body
      have hotherwise := filterMap_visits_rebound hf otherwise
      rw [rebound]
      split
      · next hopen =>
          have hwith : (body.rebound.withElse otherwise.rebound).visits.filterMap f = _ :=
            filterMap_visits_withElse hf hopen
          simp [visits, hf (.statement _) rfl, hf (.conditional _ _) rfl,
            hwith, hbody, hotherwise]
      · simp [visits, hf (.statement _) rfl, hf (.conditional _ _) rfl,
          hbody, hotherwise]

theorem filterMap_visitsAll_reboundAll (hf : ∀ v, v.isControl → f v = none) :
    ∀ body : List Statement,
      (visitsAll (reboundAll body)).filterMap f = (visitsAll body).filterMap f
  | [] => rfl
  | s :: rest => by
      have hs := filterMap_visits_rebound hf s
      have hrest := filterMap_visitsAll_reboundAll hf rest
      simp [reboundAll, visitsAll, hs, hrest]

end

end Visits

theorem mentions_rebound (s : Statement) : s.rebound.mentions = s.mentions :=
  filterMap_visits_rebound (fun _ => Visit.mention?_of_isControl) s

theorem declared_rebound (s : Statement) : s.rebound.declared = s.declared := by
  simp only [declared, attributes, uniforms, varyings, temps, mentions_rebound]

theorem verdict_rebound (stage : Stage) (s : Statement) :
    s.rebound.verdict stage = s.verdict stage := by
  have hoffences := filterMap_visits_rebound (fun _ => Visit.offence?_of_isControl stage) s
  -- a verdict looks at the first offence only
  have hfirst := congrArg List.head? hoffences
  rw [List.head?_filterMap, List.head?_filterMap] at hfirst
  rw [verdict, verdict, hfirst, declared_rebound]

@[simp] theorem endsOpen_shaderView : ∀ s : Statement, s.shaderView.endsOpen = s.endsOpen
  | .block _ => rfl
  | .assign _ _ => rfl
  | .ifThen _ _ => rfl
  | .ifThenElse _ _ otherwise => endsOpen_shaderView otherwise

mutual

/-- The view of a tree is nested like the tree. -/
theorem wellNested_shaderView_iff : ∀ s : Statement, s.shaderView.WellNested ↔ s.WellNested
  | .block body => by
      have hbody := wellNested_shaderViewAll_iff body
      rw [shaderView]
      exact ⟨fun | .block h => .block (hbody.mp h), fun | .block h => .block (hbody.mpr h)⟩
  | .assign target source => ⟨fun _ => .assign _ _, fun _ => .assign _ _⟩
  | .ifThen condition body => by
      have hbody := wellNested_shaderView_iff body
      rw [shaderView]
      exact ⟨fun | .ifThen h => .ifThen (hbody.mp h), fun | .ifThen h => .ifThen (hbody.mpr h)⟩
  | .ifThenElse condition body otherwise => by
      have hbody := wellNested_shaderView_iff body
      have hotherwise := wellNested_shaderView_iff otherwise
      rw [shaderView]
      constructor
      · intro
        | .ifThenElse h hclosed h' =>
          exact .ifThenElse (hbody.mp h) (by simpa using hclosed) (hotherwise.mp h')
      · intro
        | .ifThenElse h hclosed h' =>
          exact .ifThenElse (hbody.mpr h) (by simpa using hclosed) (hotherwise.mpr h')

theorem wellNested_shaderViewAll_iff : ∀ body : List Statement,
    (∀ s ∈ shaderViewAll body, s.WellNested) ↔ ∀ s ∈ body, s.WellNested
  | [] => Iff.rfl
  | s :: rest => by
      have hs := wellNested_shaderView_iff s
      have hrest := wellNested_shaderViewAll_iff rest
      simp only [shaderViewAll, List.forall_mem_cons, hs, hrest]

end

/-- A reader gives every `else` to its owner only if the tree is well nested. -/
theorem shaderView_rebound_eq_iff {s : Statement} :
    s.rebound.shaderView = s.shaderView ↔ s.WellNested := by
  constructor
  · intro h
    have hview := (wellNested_shaderView_iff s.rebound).mpr s.wellNested_rebound
    rw [h] at hview
    exact (wellNested_shaderView_iff s).mp hview
  · intro h
    rw [h.rebound_eq]

end Statement

namespace Glsl.Generator

/-- A run cannot tell which conditional owned an `else`. -/
theorem generate_rebound (g : Generator) (root : Statement) :
    (g.generate root.rebound).value.1 = (g.generate root).value.1 := by
  rw [generate_result, generate_result, root.verdict_rebound, root.text_rebound]
  simp only [Statement.attributes, Statement.uniforms, Statement.varyings, Statement.temps,
    root.mentions_rebound]

/-- A source is read back to the tree in which every `else` has gone to the nearest
conditional. -/
theorem readSource_generate {g : Generator} {history : List Call} {root : Statement}
    {source : String} (hname : ∀ v ∈ root.mentions, isIdentifier v.name)
    (h : ((g.serve history).generate root).value.1 = .ok source) {n : Nat}
    (hn : sizeOf root.rebound + root.declared.length ≤ n) :
    readSource g.stage g.options n source = some root.rebound.shaderView := by
  rw [← generate_rebound] at h
  obtain ⟨haccepted, hsource⟩ := generate_eq_ok_iff.mp h
  rw [← root.declared_rebound] at hn
  rw [← hsource]
  exact readSource_of_wellNested g.options root.wellNested_rebound
    (root.mentions_rebound ▸ hname) haccepted (by omega) (by omega)

/-- Read back, a source has the nesting of its tree exactly if the tree is well
nested, and two well-nested trees with the same source are nested alike. -/
theorem generate_nesting (g : Generator) (history : List Call) (root : Statement)
    (hname : ∀ v ∈ root.mentions, isIdentifier v.name) (source : String)
    (h : ((g.serve history).generate root).value.1 = .ok source) :
    (∃ fuel, ∀ n, fuel ≤ n →
        readSource g.stage g.options n source = some root.rebound.shaderView) ∧
      (root.rebound.shaderView = root.shaderView ↔ root.WellNested) ∧
      ∀ (history' : List Call) (root' : Statement),
        (∀ v ∈ root'.mentions, isIdentifier v.name) →
          ((g.serve history').generate root').value.1 = .ok source →
            root'.rebound.shaderView = root.rebound.shaderView ∧
              (root.WellNested → root'.WellNested → root'.shaderView = root.shaderView) := by
  refine ⟨⟨_, fun n => readSource_generate hname h⟩, Statement.shaderView_rebound_eq_iff, ?_⟩
  intro history' root' hname' h'
  -- one reader with fuel enough for both
  have hread := readSource_generate hname h (Nat.le_add_right _
    (sizeOf root'.rebound + root'.declared.length))
  have hread' := readSource_generate hname' h' (Nat.le_add_left _
    (sizeOf root.rebound + root.declared.length))
  have hview := Option.some.inj (hread'.symm.trans hread)
  refine ⟨hview, fun hnested hnested' => ?_⟩
  rwa [hnested.rebound_eq, hnested'.rebound_eq] at hview

/-- Conditionals without braces on both sides of another, the last of them open, in
two trees that differ in a type. -/
theorem generate_nesting_chain :
    let set (ty : Ty) (x : Binary32) : Statement :=
      .assign (.var (.temp ⟨3, ty⟩)) (.vector ty [.float x])
    let root (ty : Ty) : Statement :=
      .ifThenElse (.bool false) (.ifThenElse (.bool true) (set ty .one) (set ty .zero))
        (.ifThen (.bool true) (.ifThen (.bool false) (set ty .one)))
    let g : Generator := { stage := .fragment, options := { dialect := .es } }
    let history : List Call := [.generate (.assign .out (.vector .bool [])), .reset]
    let source :=
      "precision mediump float;\nprecision mediump int;\nprecision lowp sampler2D;\n" ++
        "precision lowp samplerCube;\nvoid main() \x7bvec4 temp3;if (false) if (true) " ++
        "temp3 = vec4(1.0); else temp3 = vec4(0.0); else if (true) if (false) " ++
        "temp3 = vec4(1.0);\x7d\n"
    (∀ v ∈ (root .byte4).mentions, isIdentifier v.name) ∧
      (∀ v ∈ (root .vec4).mentions, isIdentifier v.name) ∧
      ((g.serve history).generate (root .byte4)).value.1 = .ok source ∧
      ((g.serve []).generate (root .vec4)).value.1 = .ok source ∧
      (root .byte4).WellNested ∧ (root .vec4).WellNested ∧
      (∃ fuel, ∀ n, fuel ≤ n →
        readSource g.stage g.options n source = some (root .byte4).shaderView) ∧
      (root .vec4).shaderView = (root .byte4).shaderView := by
  intro set root g history source
  have hname : ∀ v ∈ (root .byte4).mentions, isIdentifier v.name := by decide +kernel
  have hname' : ∀ v ∈ (root .vec4).mentions, isIdentifier v.name := by decide +kernel
  have hsource : ((g.serve history).generate (root .byte4)).value.1 = .ok source := by
    decide +kernel
  have hsource' : ((g.serve []).generate (root .vec4)).value.1 = .ok source := by decide +kernel
  have hnested : ∀ ty, (root ty).WellNested := fun ty =>
    .ifThenElse (.ifThenElse (.assign _ _) rfl (.assign _ _)) rfl
      (.ifThen (.ifThen (.assign _ _)))
  obtain ⟨hread, hview, hsame⟩ := generate_nesting g history (root .byte4) hname source hsource
  rw [hview.mpr (hnested .byte4)] at hread
  exact ⟨hname, hname', hsource, hsource', hnested _, hnested _, hread,
    (hsame [] (root .vec4) hname' hsource').2 (hnested _) (hnested _)⟩

/-- Two trees that differ in the owner of their `else` and have the same source. -/
theorem generate_confuses_else_owners :
    let light : Statement := .assign .out (.vector .vec4 [.float .one])
    let dark : Statement := .assign .out (.vector .vec4 [.float .zero])
    let outer : Statement := .ifThenElse (.bool false) (.ifThen (.bool true) light) dark
    let inner : Statement := .ifThen (.bool false) (.ifThenElse (.bool true) light dark)
    let g : Generator := { stage := .fragment, options := { dialect := .es } }
    let source :=
      "precision mediump float;\nprecision mediump int;\nprecision lowp sampler2D;\n" ++
        "precision lowp samplerCube;\nvoid main() \x7bif (false) if (true) " ++
        "gl_FragColor = vec4(1.0); else gl_FragColor = vec4(0.0);\x7d\n"
    (∀ v ∈ outer.mentions, isIdentifier v.name) ∧ (∀ v ∈ inner.mentions, isIdentifier v.name) ∧
      (g.generate outer).value.1 = .ok source ∧ (g.generate inner).value.1 = .ok source ∧
      (∃ n, readSource g.stage g.options n source = some inner.shaderView) ∧
      outer.shaderView ≠ inner.shaderView := by
  intro light dark outer inner g source
  have hname : ∀ v ∈ outer.mentions, isIdentifier v.name := by decide +kernel
  have hname' : ∀ v ∈ inner.mentions, isIdentifier v.name := by decide +kernel
  have hsource : (g.generate outer).value.1 = .ok source := by decide +kernel
  have hsource' : ((g.serve []).generate inner).value.1 = .ok source := by decide +kernel
  have hread := readSource_generate hname' hsource' le_rfl
  exact ⟨hname, hname', hsource, hsource', ⟨_, hread⟩, nofun⟩

end Glsl.Generator

end ShaderTree
