import QsTie.Common.Python
import QsTie.Lib.Trace

/-!
# The inbound policy (`gateway_b/policy/pep_inbound.py`)

Rules are dicts scanned in order.  A matching rule decides when its action is
`DENY` or `ALLOW`; any other action lets the scan go on.  An entry that is no dict
has no `get`, and the scan raises when it comes to it.

So the decision is that of the first rule that both matches and decides.  It is
the decision of the first matching rule unless that rule is passed over for a
later `ALLOW` (`PassedOver`).
-/

namespace QsTie.GatewayB.InboundPep

open QsTie.Lib

/-- `rule.get(key) == '*' or rule.get(key) == value`. -/
def fieldMatches (rule : PyDict) (key value : String) : Bool :=
  match rule.get? key with
  | none => false
  | some v => v.isStr "*" || v.isStr value

def actionIs (rule : PyDict) (action : String) : Bool :=
  match rule.get? "action" with
  | none => false
  | some v => v.isStr action

def ruleMatches (rule : PyDict) (senderId recipientId tlpMarking : String) : Bool :=
  fieldMatches rule "sender" senderId && fieldMatches rule "recipient" recipientId &&
    fieldMatches rule "tlp" tlpMarking

def evaluate (rules : List PyVal) (senderId recipientId tlpMarking : String) :
    Except PyExc (Bool × String) :=
  match rules with
  | [] => .ok (false, "Policy rule not found")
  | .dict rule :: rules =>
    if ruleMatches rule senderId recipientId tlpMarking then
      if actionIs rule "DENY" then .ok (false, "Explicit DENY rule matched")
      else if actionIs rule "ALLOW" then .ok (true, "Explicit ALLOW rule matched")
      else evaluate rules senderId recipientId tlpMarking
    else evaluate rules senderId recipientId tlpMarking
  | _ :: _ => .error ⟨.attributeError, "object has no attribute 'get'"⟩

/-- The policy lets the request through. -/
def Allows (rules : List PyVal) (senderId recipientId tlpMarking : String) : Prop :=
  ∃ reason, evaluate rules senderId recipientId tlpMarking = .ok (true, reason)

/-- The policy turns the request down. -/
def Denies (rules : List PyVal) (senderId recipientId tlpMarking : String) : Prop :=
  ∃ reason, evaluate rules senderId recipientId tlpMarking = .ok (false, reason)

/-! ### The scan over a list of dicts -/

section Scan

variable (senderId recipientId tlpMarking : String)

/-- What one rule says of the request, if anything. -/
def ruleVerdict (rule : PyDict) : Option Bool :=
  if ruleMatches rule senderId recipientId tlpMarking then
    if actionIs rule "DENY" then some false
    else if actionIs rule "ALLOW" then some true
    else none
  else none

/-- There is a matching rule and the first one has action `ALLOW`. -/
def FirstAllows (rules : List PyDict) : Prop :=
  ∃ before rule after, rules = before ++ rule :: after ∧
    (∀ other ∈ before, ruleMatches other senderId recipientId tlpMarking = false) ∧
    ruleMatches rule senderId recipientId tlpMarking = true ∧ actionIs rule "ALLOW" = true

/-- The rule matches but its action is neither of the two. -/
def Undecided (rule : PyDict) : Prop :=
  ruleMatches rule senderId recipientId tlpMarking = true ∧ actionIs rule "DENY" = false ∧
    actionIs rule "ALLOW" = false

/-- The first matching rule is undecided, and of the rules after it the first one that matches
    and is decided has action `ALLOW`. -/
def PassedOver (rules : List PyDict) : Prop :=
  ∃ before rule between allow after, rules = before ++ rule :: (between ++ allow :: after) ∧
    (∀ other ∈ before, ruleMatches other senderId recipientId tlpMarking = false) ∧
    Undecided senderId recipientId tlpMarking rule ∧
    (∀ other ∈ between, ruleMatches other senderId recipientId tlpMarking = true →
      Undecided senderId recipientId tlpMarking other) ∧
    ruleMatches allow senderId recipientId tlpMarking = true ∧ actionIs allow "ALLOW" = true

variable {senderId recipientId tlpMarking}

theorem actionIs_iff {rule : PyDict} {action : String} :
    actionIs rule action = true ↔ rule.get? "action" = some (.str action) := by
  unfold actionIs
  split
  · rename_i hget
    simp [hget]
  · rename_i v hget
    rw [hget, PyVal.isStr_iff, Option.some.injEq]

/-- A rule has one action. -/
theorem not_deny_of_allow {rule : PyDict} (h : actionIs rule "ALLOW" = true) :
    actionIs rule "DENY" = false := by
  rw [actionIs_iff] at h
  rw [Bool.eq_false_iff, ne_eq, actionIs_iff, h]
  simp

theorem ruleVerdict_eq_some_true {rule : PyDict} :
    ruleVerdict senderId recipientId tlpMarking rule = some true ↔
      ruleMatches rule senderId recipientId tlpMarking = true ∧ actionIs rule "ALLOW" = true := by
  unfold ruleVerdict
  constructor
  · intro h
    split at h
    · rename_i hmatch
      split at h
      · simp at h
      · split at h
        · rename_i hallow
          exact ⟨hmatch, hallow⟩
        · simp at h
    · simp at h
  · rintro ⟨hmatch, hallow⟩
    simp [hmatch, hallow, not_deny_of_allow hallow]

theorem ruleVerdict_eq_none {rule : PyDict} :
    ruleVerdict senderId recipientId tlpMarking rule = none ↔
      (ruleMatches rule senderId recipientId tlpMarking = true →
        Undecided senderId recipientId tlpMarking rule) := by
  unfold ruleVerdict Undecided
  cases ruleMatches rule senderId recipientId tlpMarking <;>
    cases actionIs rule "DENY" <;> cases actionIs rule "ALLOW" <;> simp

theorem ruleVerdict_of_not_matches {rule : PyDict}
    (h : ruleMatches rule senderId recipientId tlpMarking = false) :
    ruleVerdict senderId recipientId tlpMarking rule = none := by
  simp [ruleVerdict, h]

/-- On dicts `evaluate` returns the first verdict, and denies when there is none. -/
theorem evaluate_dicts (senderId recipientId tlpMarking : String) (rules : List PyDict) :
    ∃ reason, evaluate (rules.map .dict) senderId recipientId tlpMarking =
      .ok ((rules.findSome? (ruleVerdict senderId recipientId tlpMarking)).getD false, reason) := by
  induction rules with
  | nil => exact ⟨_, rfl⟩
  | cons rule rules ih =>
    obtain ⟨reason, ih⟩ := ih
    simp only [List.map_cons, evaluate, List.findSome?_cons, ruleVerdict]
    split
    · split
      · exact ⟨_, rfl⟩
      · split
        · exact ⟨_, rfl⟩
        · exact ⟨reason, ih⟩
    · exact ⟨reason, ih⟩

theorem allows_dicts {rules : List PyDict} :
    Allows (rules.map .dict) senderId recipientId tlpMarking ↔
      rules.findSome? (ruleVerdict senderId recipientId tlpMarking) = some true := by
  obtain ⟨reason, heval⟩ := evaluate_dicts senderId recipientId tlpMarking rules
  unfold Allows
  rw [heval]
  cases rules.findSome? (ruleVerdict senderId recipientId tlpMarking) with
  | none => simp
  | some allow => simp

theorem denies_dicts {rules : List PyDict} :
    Denies (rules.map .dict) senderId recipientId tlpMarking ↔
      ¬ Allows (rules.map .dict) senderId recipientId tlpMarking := by
  obtain ⟨reason, heval⟩ := evaluate_dicts senderId recipientId tlpMarking rules
  unfold Allows Denies
  rw [heval]
  cases (rules.findSome? (ruleVerdict senderId recipientId tlpMarking)).getD false <;> simp

/-- The first match of a list, split off: none of the rules matches, or there is a first
    one. -/
theorem noMatch_or_first (senderId recipientId tlpMarking : String) (rules : List PyDict) :
    (∀ other ∈ rules, ruleMatches other senderId recipientId tlpMarking = false) ∨
    ∃ before rule after, rules = before ++ rule :: after ∧
      (∀ other ∈ before, ruleMatches other senderId recipientId tlpMarking = false) ∧
      ruleMatches rule senderId recipientId tlpMarking = true := by
  simpa only [Bool.not_eq_true] using
    none_or_first (fun rule => ruleMatches rule senderId recipientId tlpMarking = true) rules

theorem findSome?_of_noMatch {before rules : List PyDict}
    (h : ∀ other ∈ before, ruleMatches other senderId recipientId tlpMarking = false) :
    (before ++ rules).findSome? (ruleVerdict senderId recipientId tlpMarking) =
      rules.findSome? (ruleVerdict senderId recipientId tlpMarking) := by
  have hnone : before.findSome? (ruleVerdict senderId recipientId tlpMarking) = none := by
    rw [List.findSome?_eq_none_iff]
    intro other hother
    exact ruleVerdict_of_not_matches (h other hother)
  rw [List.findSome?_append, hnone, Option.none_or]

/-- The first match is determined by the list. -/
theorem first_unique {before before' : List PyDict} {rule rule' : PyDict}
    {after after' : List PyDict}
    (heq : before ++ rule :: after = before' ++ rule' :: after')
    (hbefore : ∀ other ∈ before, ruleMatches other senderId recipientId tlpMarking = false)
    (hbefore' : ∀ other ∈ before', ruleMatches other senderId recipientId tlpMarking = false)
    (hrule : ruleMatches rule senderId recipientId tlpMarking = true)
    (hrule' : ruleMatches rule' senderId recipientId tlpMarking = true) :
    rule = rule' ∧ after = after' := by
  induction before generalizing before' with
  | nil =>
    cases before' with
    | nil => simpa using heq
    | cons other before' =>
      simp only [List.nil_append, List.cons_append, List.cons.injEq] at heq
      rw [heq.1, hbefore' other (by simp)] at hrule
      simp at hrule
  | cons other before ih =>
    cases before' with
    | nil =>
      simp only [List.nil_append, List.cons_append, List.cons.injEq] at heq
      rw [← heq.1, hbefore other (by simp)] at hrule'
      simp at hrule'
    | cons other' before' =>
      simp only [List.cons_append, List.cons.injEq] at heq
      exact ih heq.2 (fun x hx => hbefore x (by simp [hx]))
        (fun x hx => hbefore' x (by simp [hx]))

/-- A later `ALLOW` decides exactly when what stands before it is silent. -/
theorem findSome?_eq_some_true {rules : List PyDict} :
    rules.findSome? (ruleVerdict senderId recipientId tlpMarking) = some true ↔
      ∃ between allow after, rules = between ++ allow :: after ∧
        (∀ other ∈ between, ruleMatches other senderId recipientId tlpMarking = true →
          Undecided senderId recipientId tlpMarking other) ∧
        ruleMatches allow senderId recipientId tlpMarking = true ∧
        actionIs allow "ALLOW" = true := by
  rw [List.findSome?_eq_some_iff]
  constructor
  · rintro ⟨between, allow, after, hrules, hallow, hbetween⟩
    obtain ⟨hmatch, haction⟩ := ruleVerdict_eq_some_true.mp hallow
    exact ⟨between, allow, after, hrules,
      fun other hother => ruleVerdict_eq_none.mp (hbetween other hother), hmatch, haction⟩
  · rintro ⟨between, allow, after, hrules, hbetween, hmatch, haction⟩
    exact ⟨between, allow, after, hrules, ruleVerdict_eq_some_true.mpr ⟨hmatch, haction⟩,
      fun other hother => ruleVerdict_eq_none.mpr (hbetween other hother)⟩

/-- The decision in terms of the first match. -/
theorem allows_of_first {before after : List PyDict} {rule : PyDict}
    (hbefore : ∀ other ∈ before, ruleMatches other senderId recipientId tlpMarking = false)
    (hrule : ruleMatches rule senderId recipientId tlpMarking = true) :
    Allows ((before ++ rule :: after).map .dict) senderId recipientId tlpMarking ↔
      actionIs rule "ALLOW" = true ∨ Undecided senderId recipientId tlpMarking rule ∧
        after.findSome? (ruleVerdict senderId recipientId tlpMarking) = some true := by
  rw [allows_dicts, findSome?_of_noMatch hbefore, List.findSome?_cons]
  cases hverdict : ruleVerdict senderId recipientId tlpMarking rule with
  | none =>
    have hundecided := ruleVerdict_eq_none.mp hverdict hrule
    simp [hundecided, hundecided.2.2]
  | some allow =>
    cases allow with
    | true => simp [(ruleVerdict_eq_some_true.mp hverdict).2]
    | false =>
      have hallow : actionIs rule "ALLOW" ≠ true := by
        intro hallow
        rw [ruleVerdict_eq_some_true.mpr ⟨hrule, hallow⟩] at hverdict
        simp at hverdict
      have hdecided : ¬ Undecided senderId recipientId tlpMarking rule := by
        intro hundecided
        rw [ruleVerdict_eq_none.mpr fun _ => hundecided] at hverdict
        simp at hverdict
      simp [hallow, hdecided]

/-- What `FirstAllows` says of a list whose first match is known. -/
theorem firstAllows_of_first {before after : List PyDict} {rule : PyDict}
    (hbefore : ∀ other ∈ before, ruleMatches other senderId recipientId tlpMarking = false)
    (hrule : ruleMatches rule senderId recipientId tlpMarking = true) :
    FirstAllows senderId recipientId tlpMarking (before ++ rule :: after) ↔
      actionIs rule "ALLOW" = true := by
  constructor
  · rintro ⟨before', rule', after', heq, hbefore', hrule', hallow⟩
    obtain ⟨rfl, -⟩ := first_unique heq hbefore hbefore' hrule hrule'
    exact hallow
  · intro hallow
    exact ⟨before, rule, after, rfl, hbefore, hrule, hallow⟩

theorem passedOver_of_first {before after : List PyDict} {rule : PyDict}
    (hbefore : ∀ other ∈ before, ruleMatches other senderId recipientId tlpMarking = false)
    (hrule : ruleMatches rule senderId recipientId tlpMarking = true) :
    PassedOver senderId recipientId tlpMarking (before ++ rule :: after) ↔
      Undecided senderId recipientId tlpMarking rule ∧
        after.findSome? (ruleVerdict senderId recipientId tlpMarking) = some true := by
  rw [findSome?_eq_some_true]
  constructor
  · rintro ⟨before', rule', between, allow, rest, heq, hbefore', hundecided, hlater⟩
    obtain ⟨rfl, rfl⟩ := first_unique heq hbefore hbefore' hrule hundecided.1
    exact ⟨hundecided, between, allow, rest, rfl, hlater⟩
  · rintro ⟨hundecided, between, allow, rest, rfl, hlater⟩
    exact ⟨before, rule, between, allow, rest, rfl, hbefore, hundecided, hlater⟩

/-- The decision is that of the first match unless it is passed over. -/
theorem allows_iff_firstAllows {rules : List PyDict} :
    (Allows (rules.map .dict) senderId recipientId tlpMarking ↔
      FirstAllows senderId recipientId tlpMarking rules) ↔
    ¬ PassedOver senderId recipientId tlpMarking rules := by
  rcases noMatch_or_first senderId recipientId tlpMarking rules with
    hnone | ⟨before, rule, after, rfl, hbefore, hrule⟩
  · have hallows : ¬ Allows (rules.map .dict) senderId recipientId tlpMarking := by
      rw [allows_dicts, ← List.append_nil rules, findSome?_of_noMatch hnone]
      simp
    have hfirst : ¬ FirstAllows senderId recipientId tlpMarking rules := by
      rintro ⟨before, rule, after, rfl, -, hrule, -⟩
      simp [hnone rule (by simp)] at hrule
    have hpassed : ¬ PassedOver senderId recipientId tlpMarking rules := by
      rintro ⟨before, rule, between, allow, after, rfl, -, ⟨hrule, -⟩, -⟩
      simp [hnone rule (by simp)] at hrule
    simp [hallows, hfirst, hpassed]
  · rw [firstAllows_of_first hbefore hrule, passedOver_of_first hbefore hrule,
      allows_of_first hbefore hrule]
    constructor
    · intro hiff hlater
      have hallow := hiff.mp (Or.inr hlater)
      rw [hlater.1.2.2] at hallow
      simp at hallow
    · intro hlater
      simp [hlater]

/-- Rules after the first match leave it the first match. -/
theorem firstAllows_append {rules more : List PyDict}
    (h : ∃ rule ∈ rules, ruleMatches rule senderId recipientId tlpMarking = true) :
    FirstAllows senderId recipientId tlpMarking (rules ++ more) ↔
      FirstAllows senderId recipientId tlpMarking rules := by
  rcases noMatch_or_first senderId recipientId tlpMarking rules with
    hnone | ⟨before, rule, after, rfl, hbefore, hrule⟩
  · obtain ⟨rule, hmem, hrule⟩ := h
    simp [hnone rule hmem] at hrule
  · rw [List.append_assoc, List.cons_append, firstAllows_of_first hbefore hrule,
      firstAllows_of_first hbefore hrule]

end Scan

/-! ### First match wins -/

/-- The three laws of a first-match list: the decision is that of the first match, rules
    appended after a match change nothing, a matching rule that is no `ALLOW` denies when
    put in front. -/
structure FirstMatchWins (senderId recipientId tlpMarking : String) (rules more : List PyDict)
    (rule : PyDict) : Prop where
  first : Allows (rules.map .dict) senderId recipientId tlpMarking ↔
    FirstAllows senderId recipientId tlpMarking rules
  append : (∃ other ∈ rules, ruleMatches other senderId recipientId tlpMarking = true) →
    (Allows ((rules ++ more).map .dict) senderId recipientId tlpMarking ↔
      Allows (rules.map .dict) senderId recipientId tlpMarking)
  prepend : ruleMatches rule senderId recipientId tlpMarking = true →
    actionIs rule "ALLOW" = false →
    Denies ((rule :: rules).map .dict) senderId recipientId tlpMarking

/-- **First match wins exactly when no first match is passed over**, in the list, in the list
    with rules appended after a match, and in the list with a matching rule in front. -/
theorem firstMatchWins_iff (senderId recipientId tlpMarking : String) (rules more : List PyDict)
    (rule : PyDict) :
    FirstMatchWins senderId recipientId tlpMarking rules more rule ↔
      ¬ PassedOver senderId recipientId tlpMarking rules ∧
      ((∃ other ∈ rules, ruleMatches other senderId recipientId tlpMarking = true) →
        ¬ PassedOver senderId recipientId tlpMarking (rules ++ more)) ∧
      (ruleMatches rule senderId recipientId tlpMarking = true →
        actionIs rule "ALLOW" = false →
        ¬ PassedOver senderId recipientId tlpMarking (rule :: rules)) := by
  have hfront (hrule : ruleMatches rule senderId recipientId tlpMarking = true)
      (hallow : actionIs rule "ALLOW" = false) :
      ¬ FirstAllows senderId recipientId tlpMarking (rule :: rules) := by
    rw [← List.nil_append (rule :: rules), firstAllows_of_first (by simp) hrule, hallow]
    simp
  constructor
  · rintro ⟨hfirst, happend, hprepend⟩
    refine ⟨allows_iff_firstAllows.mp hfirst, ?_, ?_⟩
    · intro hmatch
      rw [← allows_iff_firstAllows, happend hmatch, firstAllows_append hmatch]
      exact hfirst
    · intro hrule hallow
      have hdenied := denies_dicts.mp (hprepend hrule hallow)
      rw [← allows_iff_firstAllows]
      exact iff_of_false hdenied (hfront hrule hallow)
  · rintro ⟨hfirst, happend, hprepend⟩
    refine ⟨allows_iff_firstAllows.mpr hfirst, ?_, ?_⟩
    · intro hmatch
      rw [allows_iff_firstAllows.mpr (happend hmatch), firstAllows_append hmatch]
      exact (allows_iff_firstAllows.mpr hfirst).symm
    · intro hrule hallow
      rw [denies_dicts, allows_iff_firstAllows.mpr (hprepend hrule hallow)]
      exact hfront hrule hallow

namespace Sample

/-- A rule whose action is written in lower case. -/
def lowerDeny : PyDict :=
  [(.str "sender", .str "RAW"), (.str "recipient", .str "*"), (.str "tlp", .str "*"),
   (.str "action", .str "deny")]

def allowAll : PyDict :=
  [(.str "sender", .str "*"), (.str "recipient", .str "*"), (.str "tlp", .str "*"),
   (.str "action", .str "ALLOW")]

end Sample

/-- A first match with action `deny` is passed over for the `ALLOW` behind it: the request
    is allowed though the first match does not allow it, the appended `ALLOW` changes the
    decision, and the rule put in front does not deny. -/
theorem lowerDeny_passed_over :
    Allows ([Sample.lowerDeny, Sample.allowAll].map .dict) "RAW" "NIA" "tlp:green" ∧
    ¬ FirstAllows "RAW" "NIA" "tlp:green" [Sample.lowerDeny, Sample.allowAll] ∧
    (∃ other ∈ [Sample.lowerDeny], ruleMatches other "RAW" "NIA" "tlp:green" = true) ∧
    ¬ (Allows (([Sample.lowerDeny] ++ [Sample.allowAll]).map .dict) "RAW" "NIA" "tlp:green" ↔
      Allows ([Sample.lowerDeny].map .dict) "RAW" "NIA" "tlp:green") ∧
    ruleMatches Sample.lowerDeny "RAW" "NIA" "tlp:green" = true ∧
    actionIs Sample.lowerDeny "ALLOW" = false ∧
    ¬ Denies ((Sample.lowerDeny :: [Sample.allowAll]).map .dict) "RAW" "NIA" "tlp:green" := by
  have hmatch : ruleMatches Sample.lowerDeny "RAW" "NIA" "tlp:green" = true := by decide
  have haction : actionIs Sample.lowerDeny "ALLOW" = false := by decide
  have hallows : Allows ([Sample.lowerDeny, Sample.allowAll].map .dict) "RAW" "NIA" "tlp:green" :=
    allows_dicts.mpr (by decide)
  have halone : ¬ Allows ([Sample.lowerDeny].map .dict) "RAW" "NIA" "tlp:green" := by
    rw [allows_dicts]
    decide
  refine ⟨hallows, ?_, ⟨_, List.mem_singleton_self _, hmatch⟩, ?_, hmatch, haction, ?_⟩
  · rw [← List.nil_append [Sample.lowerDeny, Sample.allowAll],
      firstAllows_of_first (by simp) hmatch, haction]
    simp
  · intro hiff
    exact halone (hiff.mp hallows)
  · rw [denies_dicts]
    exact not_not_intro hallows

end QsTie.GatewayB.InboundPep
