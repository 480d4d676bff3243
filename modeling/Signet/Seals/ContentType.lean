import Signet.Schemas.SealJson

/-!
# The content type of seals

`content-type.ts`: a published seal is its envelope under a `contentType`. The envelope is
read back from the message exactly if its key id is a `KeyId`
(`SealMessage.schema_toJson`, `SealEnvelope.schema_message`); nothing else about it can
keep it from being read.
-/

namespace Signet

open Lib Zod

def sealContentTypeId : String := "xmtp.org/agentSeal:1.0"

/-- `SealMessage`: an envelope with its content type. -/
structure SealMessage extends SealEnvelope where
  contentType : String
  deriving DecidableEq

def encodeSealMessage (envelope : SealEnvelope) : SealMessage :=
  { envelope with contentType := sealContentTypeId }

section

variable (format : DatetimeFormat)

def SealMessage.toJson (message : SealMessage) : JsonValue :=
  jsonObject (("contentType", some (.string message.contentType)) ::
    message.toSealEnvelope.members format)

/-- `SealMessage`: the envelope schema and the content type. -/
def SealMessage.schema : ZodSchema SealMessage := fun value => do
  let envelope ← SealEnvelope.schema format value
  let fields ← object value
  let contentType ← member fields "contentType" (literal sealContentTypeId)
  .ok { envelope with contentType }

/-- The issue of an envelope whose key id is not one. -/
def keyIdIssue : ZodIssue := ⟨["keyId"], resourceIdMessage .key⟩

variable {format} {envelope : SealEnvelope}

/-- **What the envelope schema makes of a message.** -/
theorem SealEnvelope.schema_message (h : format.Accepts envelope.chain.timestamps) :
    SealEnvelope.schema format ((encodeSealMessage envelope).toJson format) =
      if isResourceId .key envelope.signed.keyId then .ok envelope else .error keyIdIssue := by
  unfold SealEnvelope.schema SealMessage.toJson jsonObject encodeSealMessage SealEnvelope.members
  rw [object_object, ok_bind, member_jsonMembers (by simp) (SealChain.schema_toJson h), ok_bind,
    member_jsonMembers (by simp) (text_string envelope.signed.signature), ok_bind]
  by_cases hkey : isResourceId .key envelope.signed.keyId = true
  · rw [if_pos hkey, member_jsonMembers (by simp) (resourceIdSchema_string hkey), ok_bind,
      member_jsonMembers (by simp) (literal_string sealAlgorithm), ok_bind]
  -- the envelope is rejected for its key id alone
  · have hinvalid := resourceIdSchema_string_error (Bool.eq_false_iff.2 hkey)
    rw [if_neg hkey, member_jsonMembers_error (by simp) hinvalid]
    rfl

/-- **What the message schema makes of a message.** -/
theorem SealMessage.schema_toJson (h : format.Accepts envelope.chain.timestamps) :
    SealMessage.schema format ((encodeSealMessage envelope).toJson format) =
      if isResourceId .key envelope.signed.keyId then .ok (encodeSealMessage envelope)
      else .error keyIdIssue := by
  unfold SealMessage.schema
  rw [SealEnvelope.schema_message h]
  by_cases hkey : isResourceId .key envelope.signed.keyId = true
  · rw [if_pos hkey, if_pos hkey, ok_bind]
    unfold SealMessage.toJson jsonObject encodeSealMessage
    rw [object_object, ok_bind, member_jsonMembers (by simp) (literal_string sealContentTypeId),
      ok_bind]
  · rw [if_neg hkey, if_neg hkey, error_bind]

end

end Signet
