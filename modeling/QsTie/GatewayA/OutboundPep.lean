import QsTie.Common.Enums

/-!
# The outbound policy (`gateway_a/policy/pep_outbound.py`)

The policy table is a list of rules turned into a dict, so the last rule of a
marking is the one that counts.
-/

namespace QsTie.GatewayA

structure SharingPolicyRule where
  tlpMarking : TlpMarking
  allowedRecipients : List String

/-- `OutboundPep`, given by its policy table. -/
structure OutboundPep where
  policyTable : List SharingPolicyRule

namespace OutboundPep

variable (pep : OutboundPep)

/-- `self.policy_table.get(tlp)`. -/
def allowedRecipients (tlp : TlpMarking) : Option (List String) :=
  (pep.policyTable.reverse.find? fun rule => rule.tlpMarking == tlp).map
    SharingPolicyRule.allowedRecipients

def authorize (tlp : TlpMarking) (recipientId : String) : Bool × Option String :=
  match pep.allowedRecipients tlp with
  | none => (false, some "POLICY_DENIED_UNKNOWN_TLP")
  | some recipients =>
    if recipients.contains recipientId then (true, none)
    else (false, some "POLICY_DENIED_UNAUTHORIZED_RECIPIENT")

/-- The table allows the recipient for the marking. -/
def Allows (tlp : TlpMarking) (recipientId : String) : Prop :=
  ∃ recipients, pep.allowedRecipients tlp = some recipients ∧ recipientId ∈ recipients

theorem authorize_eq_true {tlp : TlpMarking} {recipientId : String} :
    (pep.authorize tlp recipientId).1 = true ↔ pep.Allows tlp recipientId := by
  unfold authorize Allows
  cases pep.allowedRecipients tlp with
  | none => simp
  | some recipients => by_cases hmem : recipientId ∈ recipients <;> simp [hmem]

/-- A table with one rule allows its recipients for its marking only. -/
theorem allows_single {m tlp : TlpMarking} {recipientId : String} :
    Allows ⟨[⟨m, [recipientId]⟩]⟩ tlp recipientId ↔ tlp = m := by
  unfold Allows allowedRecipients
  constructor
  · rintro ⟨recipients, hfind, _⟩
    by_contra hne
    have hne' : (m == tlp) = false := by simpa using fun h => hne h.symm
    simp [hne'] at hfind
  · rintro rfl
    exact ⟨[recipientId], by simp, by simp⟩

end OutboundPep

end QsTie.GatewayA
