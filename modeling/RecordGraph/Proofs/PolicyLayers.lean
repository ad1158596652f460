import RecordGraph.Policy

/-!
# The layers of the policy

The policy tries its rules in order on groups that may overlap: the scoping types are configured, so
a control or a directive may be one of them.  Each rule is said here of the unordered pair of types
alone, and the policy reports the first rule that the pair matches.  Hence the order of the two
types does not count, and what is refused stays refused when scoping types are added.
-/

namespace RecordGraph.Policy

/-- One of two types is in the first group and the other one in the second. -/
def Across (first second : String → Prop) (left right : String) : Prop :=
  (first left ∧ second right) ∨ (first right ∧ second left)

def Directive (type : String) : Prop := type = "Regulation" ∨ type = "Standard"

/-- Directives, controls and risks, the types that the policy knows by their names. -/
def Named (type : String) : Prop := Directive type ∨ type = "Control" ∨ type = "Risk"

variable {scoping wider : List String} {left right : String}

namespace Across

variable {first second more : String → Prop}

theorem mono (hacross : Across first second left right)
    (hmore : ∀ type, first type → more type) : Across more second left right :=
  hacross.imp (And.imp_left (hmore left)) (And.imp_left (hmore right))

/-- One of the two types is in the second group. -/
theorem either (hacross : Across first second left right) : second left ∨ second right :=
  hacross.symm.imp And.right And.right

/-- A group of two parts is met in one of the parts. -/
theorem or_iff :
    Across (fun type => first type ∨ more type) second left right ↔
      Across first second left right ∨ Across more second left right := by
  simp only [Across, or_and_right]
  exact or_or_or_comm

end Across

namespace Violation

/-- The two types match a rule, whatever the rules before it say.  That a risk may not be mapped to
a control is left to the rule for controls. -/
def Matches (scoping : List String) : Violation → String → String → Prop
  | scopingToDirective => Across (fun type => type ∈ scoping) Directive
  | control =>
    Across (fun type => type ∈ scoping ∨ Directive type ∨ type = "Risk")
      (fun type => type = "Control")
  | risk => Across (fun type => type ∈ scoping ∨ Directive type) (fun type => type = "Risk")

/-- The two types match a rule and none before it. -/
def MatchesFirst (scoping : List String) (violation : Violation) (left right : String) : Prop :=
  match violation with
  | scopingToDirective => scopingToDirective.Matches scoping left right
  | control =>
    ¬scopingToDirective.Matches scoping left right ∧ control.Matches scoping left right
  | risk =>
    ¬scopingToDirective.Matches scoping left right ∧ ¬control.Matches scoping left right ∧
      risk.Matches scoping left right

variable {violation other : Violation}

/-- More scoping types match a rule wherever fewer do. -/
theorem Matches.mono (hmatches : violation.Matches scoping left right) (hwider : scoping ⊆ wider) :
    violation.Matches wider left right := by
  cases violation with
  | scopingToDirective => exact Across.mono hmatches fun _ hscoping => hwider hscoping
  | control =>
    rw [Matches] at hmatches ⊢
    exact hmatches.mono fun _ hgroup => hgroup.imp_left fun hscoping => hwider hscoping
  | risk =>
    rw [Matches] at hmatches ⊢
    exact hmatches.mono fun _ hgroup => hgroup.imp_left fun hscoping => hwider hscoping

/-- Whichever rule is matched, the policy knows one of the types by its name. -/
theorem Matches.named (hmatches : violation.Matches scoping left right) :
    Named left ∨ Named right := by
  cases violation with
  | scopingToDirective => exact (Across.either hmatches).imp .inl .inl
  | control =>
    rw [Matches] at hmatches
    exact hmatches.either.imp (fun hname => .inr (.inl hname)) (fun hname => .inr (.inl hname))
  | risk =>
    rw [Matches] at hmatches
    exact hmatches.either.imp (fun hname => .inr (.inr hname)) (fun hname => .inr (.inr hname))

theorem MatchesFirst.matches (hfirst : violation.MatchesFirst scoping left right) :
    violation.Matches scoping left right := by
  cases violation with
  | scopingToDirective => exact hfirst
  | control => exact hfirst.2
  | risk => exact hfirst.2.2

/-- Only one rule is matched first. -/
theorem MatchesFirst.unique (hfirst : violation.MatchesFirst scoping left right)
    (hother : other.MatchesFirst scoping left right) : violation = other := by
  cases violation with
  | scopingToDirective =>
    cases other with
    | scopingToDirective => rfl
    | control => exact absurd hfirst hother.1
    | risk => exact absurd hfirst hother.1
  | control =>
    cases other with
    | scopingToDirective => exact absurd hother hfirst.1
    | control => rfl
    | risk => exact absurd hfirst.2 hother.2.1
  | risk =>
    cases other with
    | scopingToDirective => exact absurd hother hfirst.1
    | control => exact absurd hother.2 hfirst.2.1
    | risk => rfl

end Violation

/-! ## The decision -/

theorem joins_comm (first second : String → Bool) (left right : String) :
    joins first second left right = joins first second right left :=
  Bool.or_comm _ _

theorem joins_iff {first second : String → Bool} :
    joins first second left right = true ↔
      Across (fun type => first type = true) (fun type => second type = true) left right := by
  simp only [joins, Across, Bool.or_eq_true, Bool.and_eq_true]

theorem restriction?_comm (scoping : List String) (left right : String) :
    restriction? scoping left right = restriction? scoping right left := by
  simp only [restriction?, joins_comm _ _ left right]

theorem joins_directive_iff :
    joins (fun type => scoping.contains type) isDirective left right = true ↔
      Violation.scopingToDirective.Matches scoping left right := by
  simp only [joins_iff, List.contains_iff_mem, isDirective, Bool.or_eq_true, beq_iff_eq]
  rfl

theorem joins_control_iff :
    joins (fun type => scoping.contains type || isDirective type || isRisk type) isControl
        left right = true ↔
      Violation.control.Matches scoping left right := by
  simp only [joins_iff, List.contains_iff_mem, isDirective, isRisk, isControl, Bool.or_eq_true,
    beq_iff_eq, or_assoc]
  simp only [Violation.Matches, Directive, or_assoc]

/-- The last rule as it is tried also refuses a risk to a control, a pair that has been refused by
then. -/
theorem joins_risk_iff (hcontrol : ¬Violation.control.Matches scoping left right) :
    joins (fun type => scoping.contains type || isDirective type || isControl type) isRisk
        left right = true ↔
      Violation.risk.Matches scoping left right := by
  have hapart : ¬Across (fun type => type = "Control") (fun type => type = "Risk") left right := by
    intro hpair
    apply hcontrol
    rcases hpair with ⟨hleft, hright⟩ | ⟨hright, hleft⟩
    · exact .inr ⟨.inr (.inr hright), hleft⟩
    · exact .inl ⟨.inr (.inr hleft), hright⟩
  simp only [joins_iff, List.contains_iff_mem, isDirective, isRisk, isControl, Bool.or_eq_true,
    beq_iff_eq]
  rw [Across.or_iff, or_iff_left hapart]
  rfl

/-- The policy reports the rule that the two types match first, if they match any. -/
theorem restriction?_cases (scoping : List String) (left right : String) :
    (∃ violation : Violation, restriction? scoping left right = some violation ∧
        violation.MatchesFirst scoping left right) ∨
      (restriction? scoping left right = none ∧
        ∀ violation : Violation, ¬violation.Matches scoping left right) := by
  rw [restriction?]
  dsimp only
  split
  · next hdirective => exact .inl ⟨_, rfl, joins_directive_iff.1 hdirective⟩
  · next hdirective =>
    rw [joins_directive_iff] at hdirective
    split
    · next hcontrol => exact .inl ⟨_, rfl, hdirective, joins_control_iff.1 hcontrol⟩
    · next hcontrol =>
      rw [joins_control_iff] at hcontrol
      split
      · next hrisk => exact .inl ⟨_, rfl, hdirective, hcontrol, (joins_risk_iff hcontrol).1 hrisk⟩
      · next hrisk =>
        rw [joins_risk_iff hcontrol] at hrisk
        refine .inr ⟨rfl, fun violation => ?_⟩
        cases violation with
        | scopingToDirective => exact hdirective
        | control => exact hcontrol
        | risk => exact hrisk

theorem restriction?_eq_some_iff {violation : Violation} :
    restriction? scoping left right = some violation ↔
      violation.MatchesFirst scoping left right := by
  rcases restriction?_cases scoping left right with ⟨found, hfound, hfirst⟩ | ⟨hfound, hnone⟩
  · rw [hfound, Option.some.injEq]
    constructor
    · rintro rfl
      exact hfirst
    · exact hfirst.unique
  · rw [hfound]
    exact iff_of_false (Option.some_ne_none _).symm fun hfirst => hnone violation hfirst.matches

theorem restriction?_eq_none_iff :
    restriction? scoping left right = none ↔
      ∀ violation : Violation, ¬violation.Matches scoping left right := by
  rcases restriction?_cases scoping left right with ⟨found, hfound, hfirst⟩ | ⟨hfound, hnone⟩
  · rw [hfound]
    exact iff_of_false (Option.some_ne_none _) fun hnone => hnone found hfirst.matches
  · exact iff_of_true hfound hnone

/-- What the policy says of pairs of types under given scoping types. -/
structure Layered (scoping : List String) : Prop where
  symmetric : ∀ left right,
    violation? scoping false left right = violation? scoping false right left
  /-- What is refused stays refused when scoping types are added. -/
  monotone : ∀ wider, scoping ⊆ wider → ∀ left right,
    violation? scoping false left right ≠ none → violation? wider false left right ≠ none
  /-- Pairs without a directive, a control or a risk are allowed. -/
  unnamed : ∀ left right, ¬Named left → ¬Named right → violation? scoping false left right = none
  refused : ∀ left right violation,
    violation? scoping false left right = some violation ↔
      violation.MatchesFirst scoping left right
  allowed : ∀ left right,
    violation? scoping false left right = none ↔
      ∀ violation : Violation, ¬violation.Matches scoping left right
  /-- A control and a risk break the rule for controls, whichever types are scoping ones. -/
  controlAndRisk : violation? scoping false "Control" "Risk" = some .control
  /-- An external actor breaks no rule. -/
  exempt : ∀ left right, violation? scoping true left right = none

/-- Whatever the scoping types are, be they controls, risks or directives themselves, the policy
refuses a pair of types for the first rule that the pair matches in either order. -/
theorem policy_layered (scoping : List String) : Layered scoping where
  symmetric := restriction?_comm scoping
  monotone wider hwider left right hrefused hallowed := by
    apply hrefused
    refine restriction?_eq_none_iff.2 fun violation hmatches => ?_
    exact restriction?_eq_none_iff.1 hallowed violation (hmatches.mono hwider)
  unnamed left right hleft hright :=
    restriction?_eq_none_iff.2 fun _ hmatches => hmatches.named.elim hleft hright
  refused _ _ _ := restriction?_eq_some_iff
  allowed _ _ := restriction?_eq_none_iff
  controlAndRisk := by
    have hapart : ¬Violation.scopingToDirective.Matches scoping "Control" "Risk" := by
      intro hmatches
      rcases Across.either hmatches with hdirective | hdirective
      · exact absurd hdirective (by unfold Directive; decide)
      · exact absurd hdirective (by unfold Directive; decide)
    exact restriction?_eq_some_iff.2 ⟨hapart, .inr ⟨.inr (.inr rfl), rfl⟩⟩
  exempt _ _ := rfl

/-- Where controls and regulations are scoping types, a pair of them breaks two rules, and the first
is reported. -/
example : violation? ["Control", "Regulation"] false "Regulation" "Control" =
    some .scopingToDirective := by decide

end RecordGraph.Policy
