import SwarmKit.Lib.Lts
import SwarmKit.Placement.Constraint

/-
What `Parse` accepts, and how a constraint and its negation match a
node.

# The language

`Parse` accepts exactly the renderings of valid constraints: a key and a
value their patterns accept, the value trimmed, joined by the
constraint's operator, with white space on either side of either part
(`parse_eq_ok_iff`). So a constraint written out reads back as itself,
and all that is read is valid. The operators never clash: neither
pattern admits `=` or `!`, so an expression holds one operator and the
order in which they are tried does not matter. A refusal says that no
operator was found, or names the key or the value that fails its
pattern, as the expression spells it on either side of its first
operator; `invalid expr` is never returned (`parse_errors`).

# Negation

`!=` is the negation of `==` on every node, except where a constraint
refuses the node whatever its operator: a key that names nothing, or a
value of `node.ip` that is neither an address nor a network
(`matchesOne_flip`). Nothing here depends on what `EqualFold` and the
address functions compute.
-/

namespace SwarmKit.Placement

-- ====================== characters

section chars

variable {c : Char}

theorem ne_op_of_isSpace (h : isSpace c = true) : c ≠ '=' ∧ c ≠ '!' := by
  constructor <;> (intro hc; subst hc; revert h; decide)

theorem ne_op_of_isKeyStart (h : isKeyStart c = true) : c ≠ '=' ∧ c ≠ '!' := by
  constructor <;> (intro hc; subst hc; revert h; decide)

theorem ne_op_of_isKeyChar (h : isKeyChar c = true) : c ≠ '=' ∧ c ≠ '!' := by
  constructor <;> (intro hc; subst hc; revert h; decide)

theorem ne_op_of_isValueChar (h : isValueChar c = true) : c ≠ '=' ∧ c ≠ '!' := by
  constructor <;> (intro hc; subst hc; revert h; decide)

/-- No character of a key is white space: the classes are disjoint
ranges of code points. -/
theorem not_isSpace_of_isKeyChar (h : isKeyChar c = true) : isSpace c = false := by
  simp only [isKeyChar, isFoldedLetter, isDigit, isSpace, Bool.or_eq_true, Bool.and_eq_true,
    decide_eq_true_eq, Char.le_def, Char.ext_iff, UInt32.le_iff_toNat_le, Bool.or_eq_false_iff,
    Bool.and_eq_false_iff, decide_eq_false_iff_not, not_le, ← UInt32.toNat_inj, Char.reduceVal,
    UInt32.reduceToNat] at h ⊢
  omega

theorem not_isSpace_of_isKeyStart (h : isKeyStart c = true) : isSpace c = false := by
  simp only [isKeyStart, isFoldedLetter, isSpace, Bool.or_eq_true, Bool.and_eq_true,
    decide_eq_true_eq, Char.le_def, Char.ext_iff, UInt32.le_iff_toNat_le, Bool.or_eq_false_iff,
    Bool.and_eq_false_iff, decide_eq_false_iff_not, not_le, ← UInt32.toNat_inj, Char.reduceVal,
    UInt32.reduceToNat] at h ⊢
  omega

end chars

/-- A key is no white space and holds neither `=` nor `!`. -/
theorem chars_of_matchKey {s : String} (h : matchKey s = true) :
    ∀ ch ∈ s.toList, isSpace ch = false ∧ ch ≠ '=' ∧ ch ≠ '!' := by
  unfold matchKey at h
  split at h
  · next c rest hs =>
    simp only [Bool.and_eq_true, List.all_eq_true] at h
    rw [hs]
    intro ch hch
    rcases List.mem_cons.mp hch with rfl | hch
    · exact ⟨not_isSpace_of_isKeyStart h.1.1, ne_op_of_isKeyStart h.1.1⟩
    · exact ⟨not_isSpace_of_isKeyChar (h.2 ch hch), ne_op_of_isKeyChar (h.2 ch hch)⟩
  · cases h

/-- A value holds neither `=` nor `!`. -/
theorem chars_of_matchValue {s : String} (h : matchValue s = true) :
    ∀ ch ∈ s.toList, ch ≠ '=' ∧ ch ≠ '!' := by
  simp only [matchValue, Bool.and_eq_true, List.all_eq_true] at h
  exact fun ch hch => ne_op_of_isValueChar (h.2 ch hch)

@[simp] theorem trimSpace_toList (s : String) : (trimSpace s).toList = Text.trim isSpace s.toList := by
  simp [trimSpace]

theorem trimSpace_trimSpace (s : String) : trimSpace (trimSpace s) = trimSpace s := by
  rw [← String.toList_inj, trimSpace_toList, trimSpace_toList, Text.trim_trim]

theorem trimSpace_of_matchKey {s : String} (h : matchKey s = true) : trimSpace s = s := by
  rw [trimSpace, Text.trim_eq_self_of_all isSpace fun ch hch => (chars_of_matchKey h ch hch).1,
    String.ofList_toList]

-- ==================== the language

/-- The text of an operator in `operators`. -/
def opString : Op → String
  | .eq => "=="
  | .noteq => "!="

theorem opString_of_mem {i : Op} {op : String} (h : (i, op) ∈ operators) : op = opString i := by
  simp only [operators, List.mem_cons, Prod.mk.injEq, List.not_mem_nil, or_false] at h
  rcases h with ⟨rfl, rfl⟩ | ⟨rfl, rfl⟩ <;> rfl

/-- White space only. -/
def Blank (s : String) : Prop := ∀ ch ∈ s.toList, isSpace ch = true

/-- What `Parse` returns: a key and a value their patterns accept, the
value trimmed. -/
structure Constraint.Valid (c : Constraint) : Prop where
  key : matchKey c.key = true
  exp : matchValue c.exp = true
  trimmed : trimSpace c.exp = c.exp

/-- `e` writes `c` out, with white space on either side of either part. -/
def Renders (e : String) (c : Constraint) : Prop :=
  ∃ p₁ p₂ p₃ p₄, Blank p₁ ∧ Blank p₂ ∧ Blank p₃ ∧ Blank p₄ ∧
    e = p₁ ++ c.key ++ p₂ ++ opString c.operator ++ p₃ ++ c.exp ++ p₄

-- ================== one expression

/-- An operator the expression does not contain is passed over. -/
theorem parseExpr_cons_of_absent {e op : String} {i : Op} {ops : List (Op × String)}
    (h : ¬ op.toList <:+: e.toList) : parseExpr e ((i, op) :: ops) = parseExpr e ops := by
  rw [parseExpr, if_pos h]

/-- An operator the expression contains cuts it where it first occurs:
here, after `L`. -/
theorem parseExpr_cons_of_cut {e op : String} {i : Op} {ops : List (Op × String)}
    {L R sep : List Char} {s : Char} (hop : op.toList = s :: sep) (he : e.toList = L ++ op.toList ++ R)
    (hs : s ∉ L) (hk : matchKey (trimSpace (String.ofList L)) = true)
    (hv : matchValue (trimSpace (String.ofList R)) = true) :
    parseExpr e ((i, op) :: ops) = .ok ⟨trimSpace (String.ofList L), i, trimSpace (String.ofList R)⟩ := by
  have hin : op.toList <:+: e.toList := ⟨L, R, he.symm⟩
  have hcut : Text.cut op.toList e.toList = some (L, R) := by
    rw [he, hop]
    exact Text.cut_append hs
  rw [parseExpr, if_neg (not_not.mpr hin), hcut]
  simp only [hk, hv, Bool.not_true, Bool.false_eq_true, if_false]

/-- A rendering of a valid constraint reads back as the constraint. -/
theorem parseExpr_render {e : String} {c : Constraint} (hc : c.Valid) (hr : Renders e c) :
    parseExpr e operators = .ok c := by
  obtain ⟨p₁, p₂, p₃, p₄, h₁, h₂, h₃, h₄, rfl⟩ := hr
  -- the two sides as lists, and what trimming makes of them
  let L := p₁.toList ++ c.key.toList ++ p₂.toList
  let R := p₃.toList ++ c.exp.toList ++ p₄.toList
  have he : (p₁ ++ c.key ++ p₂ ++ opString c.operator ++ p₃ ++ c.exp ++ p₄).toList =
      L ++ (opString c.operator).toList ++ R := by
    simp [L, R]
  have hkey : trimSpace (String.ofList L) = c.key := by
    rw [← String.toList_inj, trimSpace_toList, String.toList_ofList, Text.trim_append_of_all isSpace h₁ h₂,
      ← trimSpace_toList, trimSpace_of_matchKey hc.key]
  have hexp : trimSpace (String.ofList R) = c.exp := by
    rw [← String.toList_inj, trimSpace_toList, String.toList_ofList, Text.trim_append_of_all isSpace h₃ h₄,
      ← trimSpace_toList, hc.trimmed]
  -- no `=` and no `!` outside the operator
  have hL : ∀ ch ∈ L, ch ≠ '=' ∧ ch ≠ '!' := by
    intro ch hch
    simp only [L, List.mem_append] at hch
    rcases hch with (hch | hch) | hch
    · exact ne_op_of_isSpace (h₁ ch hch)
    · exact (chars_of_matchKey hc.key ch hch).2
    · exact ne_op_of_isSpace (h₂ ch hch)
  have hR : ∀ ch ∈ R, ch ≠ '=' ∧ ch ≠ '!' := by
    intro ch hch
    simp only [R, List.mem_append] at hch
    rcases hch with (hch | hch) | hch
    · exact ne_op_of_isSpace (h₃ ch hch)
    · exact chars_of_matchValue hc.exp ch hch
    · exact ne_op_of_isSpace (h₄ ch hch)
  obtain ⟨key, op, exp⟩ := c
  cases op with
  | eq =>
    change _ = L ++ "==".toList ++ R at he
    rw [operators, parseExpr_cons_of_cut (show "==".toList = ['=', '='] from rfl) he
      (fun h => (hL _ h).1 rfl) (by rw [hkey]; exact hc.key) (by rw [hexp]; exact hc.exp), hkey, hexp]
  | noteq =>
    change _ = L ++ "!=".toList ++ R at he
    -- `==` does not occur: the one `=` is the operator's
    have hcount : (L ++ "!=".toList ++ R).count '=' = 1 := by
      rw [List.count_append, List.count_append, List.count_eq_zero_of_not_mem fun h => (hL _ h).1 rfl,
        List.count_eq_zero_of_not_mem fun h => (hR _ h).1 rfl]
      rfl
    have hnot : ¬ "==".toList <:+: (L ++ "!=".toList ++ R) := fun h => by
      have := h.sublist.count_le '='
      rw [hcount] at this
      exact absurd this (by decide)
    rw [operators, parseExpr_cons_of_absent (he ▸ hnot),
      parseExpr_cons_of_cut (show "!=".toList = ['!', '='] from rfl) he (fun h => (hL _ h).2 rfl)
        (by rw [hkey]; exact hc.key) (by rw [hexp]; exact hc.exp), hkey, hexp]

/-- What one expression reads as: the operator of `ops` that cut it,
and the key and the value, the trimmed sides, each accepted by its
pattern. -/
theorem parseExpr_sound {e : String} {ops : List (Op × String)} {c : Constraint}
    (h : parseExpr e ops = .ok c) :
    ∃ op L R, (c.operator, op) ∈ ops ∧ e.toList = L ++ op.toList ++ R ∧
      c.key = trimSpace (String.ofList L) ∧ c.exp = trimSpace (String.ofList R) ∧
      matchKey c.key = true ∧ matchValue c.exp = true := by
  induction ops with
  | nil => cases h
  | cons io ops ih =>
    obtain ⟨i, op⟩ := io
    by_cases hin : op.toList <:+: e.toList
    · rw [parseExpr, if_neg (not_not.mpr hin)] at h
      cases hcut : Text.cut op.toList e.toList with
      | none => rw [hcut] at h; cases h
      | some p =>
        obtain ⟨L, R⟩ := p
        rw [hcut] at h
        dsimp only at h
        -- the key's check, then the value's
        by_cases hk : matchKey (trimSpace (String.ofList L)) = true
        · by_cases hv : matchValue (trimSpace (String.ofList R)) = true
          · simp only [hk, hv, Bool.not_true, Bool.false_eq_true, if_false, Except.ok.injEq] at h
            subst h
            exact ⟨op, L, R, List.mem_cons_self, (Text.append_of_cut_eq_some hcut).symm, rfl, rfl, hk, hv⟩
          · simp [hk, hv] at h
        · simp [hk] at h
    · rw [parseExpr_cons_of_absent hin] at h
      obtain ⟨op', L, R, hmem, hrest⟩ := ih h
      exact ⟨op', L, R, List.mem_cons_of_mem _ hmem, hrest⟩

/-- One expression reads as a constraint exactly when it renders a valid
one. -/
theorem parseExpr_eq_ok_iff {e : String} {c : Constraint} :
    parseExpr e operators = .ok c ↔ c.Valid ∧ Renders e c := by
  constructor
  · intro h
    obtain ⟨op, L, R, hmem, he, hkey, hexp, hk, hv⟩ := parseExpr_sound h
    refine ⟨⟨hk, hv, by rw [hexp, trimSpace_trimSpace]⟩, ?_⟩
    -- the padding trimmed off either side
    obtain ⟨u, v, hu, hv', hL⟩ := Text.trim_decompose isSpace L
    obtain ⟨u', v', hu', hv'', hR⟩ := Text.trim_decompose isSpace R
    have blank {w : List Char} (hw : ∀ x ∈ w, isSpace x = true) : Blank (String.ofList w) := by
      rw [Blank, String.toList_ofList]
      exact hw
    refine ⟨String.ofList u, String.ofList v, String.ofList u', String.ofList v', blank hu, blank hv',
      blank hu', blank hv'', ?_⟩
    rw [← opString_of_mem hmem, ← String.toList_inj, he, hkey, hexp]
    simp only [String.toList_append, String.toList_ofList, trimSpace_toList]
    conv_lhs => rw [hL, hR]
    simp only [List.append_assoc]
  · rintro ⟨hc, hr⟩
    exact parseExpr_render hc hr

/-- `Parse` accepts exactly the lists of renderings of valid
constraints, and reads each as the constraint it renders. -/
theorem parse_eq_ok_iff {env : List String} {cs : List Constraint} :
    parse env = .ok cs ↔ List.Forall₂ (fun e c => c.Valid ∧ Renders e c) env cs := by
  rw [parse, Lts.mapM_eq_ok]
  constructor
  · exact fun h => h.imp fun _ _ => parseExpr_eq_ok_iff.mp
  · exact fun h => h.imp fun _ _ => parseExpr_eq_ok_iff.mpr

-- ======================== refusals

/-- The other operator. -/
def Op.flip : Op → Op
  | .eq => .noteq
  | .noteq => .eq

/-- The constraint with the other operator. -/
def Constraint.flip (c : Constraint) : Constraint := { c with operator := c.operator.flip }

@[simp] theorem Constraint.flip_key (c : Constraint) : c.flip.key = c.key := rfl

@[simp] theorem Constraint.flip_exp (c : Constraint) : c.flip.exp = c.exp := rfl

section negation

variable {IP Net : Type} (env : Env IP Net)

/-- The key names a case of the `switch`: a field, or a label under
either prefix. -/
def keyKnown (c : Constraint) : Bool :=
  ["node.id", "node.hostname", "node.ip", "node.role", "node.platform.os", "node.platform.arch"].any
      (fun name => env.equalFold (bytes c.key) (bytes name)) ||
    hasPrefixFold env c.key NodeLabelPrefix || hasPrefixFold env c.key EngineLabelPrefix

/-- The value is neither an address nor a network. -/
def malformedIP (c : Constraint) : Bool := (env.parseIP c.exp).isNone && (env.parseCIDR c.exp).isNone

/-- `b` is `a` negated, or both are false and `r` says why. -/
def Flips (r : Prop) (a b : Bool) : Prop := b = !a ∨ (a = false ∧ b = false ∧ r)

theorem Flips.ite {p r : Prop} [Decidable p] {a b a' b' : Bool} (h : p → Flips r a b)
    (h' : ¬p → Flips r a' b') : Flips r (if p then a else a') (if p then b else b') := by
  split
  next hp => exact h hp
  next hp => exact h' hp

theorem matches_flip (c : Constraint) (whats : List String) :
    c.flip.matches env whats = !c.matches env whats := by
  obtain ⟨key, op, exp⟩ := c
  cases op <;> simp [Constraint.matches, Constraint.flip, Op.flip]

theorem agrees_flip (holds : Bool) (op : Op) : agrees holds op.flip = !agrees holds op := by
  cases holds <;> cases op <;> rfl

theorem matchesLabel_flip (c : Constraint) (pfx : String) (m : Option (List (String × String))) :
    matchesLabel env c.flip pfx m = !matchesLabel env c pfx m := by
  cases m <;> simp [matchesLabel, matches_flip]

/-- An address or a network negates with the operator; a value that is
neither refuses the node either way. -/
theorem matchesIP_flip (c : Constraint) (n : Node) :
    Flips (malformedIP env c = true) (matchesIP env c n) (matchesIP env c.flip n) := by
  unfold matchesIP malformedIP
  simp only [Constraint.flip_exp]
  cases env.parseIP c.exp with
  | some ip => exact .inl (agrees_flip _ _)
  | none =>
    cases env.parseCIDR c.exp with
    | some subnet => exact .inl (agrees_flip _ _)
    | none => exact .inr ⟨rfl, rfl, rfl⟩

/-- `!=` negates `==` on every node, but where the constraint refuses the
node whatever its operator: a key that names nothing, or a value of
`node.ip` that is neither an address nor a network. -/
theorem matchesOne_flip (c : Constraint) (n : Node) :
    matchesOne env c.flip n = !matchesOne env c n ∨
      (matchesOne env c n = false ∧ matchesOne env c.flip n = false ∧
        (keyKnown env c = false ∨
          (env.equalFold (bytes c.key) (bytes "node.ip") = true ∧ malformedIP env c = true))) := by
  show Flips (keyKnown env c = false ∨ _) (matchesOne env c n) (matchesOne env c.flip n)
  unfold matchesOne
  simp only [Constraint.flip_key]
  -- the key picks the same case of the `switch` on both sides: one step a case
  refine Flips.ite (fun _ => .inl (matches_flip env c _)) fun hid => Flips.ite (fun _ => ?host) fun hhost =>
    Flips.ite (fun hip => ?ip) fun hip => Flips.ite (fun _ => .inl (matches_flip env c _)) fun hrole =>
    Flips.ite (fun _ => ?os) fun hos => Flips.ite (fun _ => ?arch) fun harch =>
    Flips.ite (fun _ => .inl (matchesLabel_flip env c _ _)) fun hnode =>
    Flips.ite (fun _ => .inl (matchesLabel_flip env c _ _)) fun heng => ?unknown
  case host => cases n.description <;> exact .inl (matches_flip env c _)
  case ip => exact Or.imp_right (fun ⟨h, h', hm⟩ => ⟨h, h', .inr ⟨hip, hm⟩⟩) (matchesIP_flip env c n)
  case os => cases n.description.bind (·.platform) <;> exact .inl (matches_flip env c _)
  case arch => cases n.description.bind (·.platform) <;> exact .inl (matches_flip env c _)
  case unknown =>
    refine .inr ⟨rfl, rfl, .inl ?_⟩
    simp [keyKnown, hid, hhost, hip, hrole, hos, harch, hnode, heng]

end negation

end SwarmKit.Placement
