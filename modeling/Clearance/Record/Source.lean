import Clearance.Json.Record

/-!
# Records of the object source

An object arrives as a record with its ciphertext and with fields in plain text beside it, a note
as a record whose attributes are the text of a document.

## Main definitions

* `RawRecord`, `Note`: the two records.
* `RawRecord.format`, `Note.format`: their documents.
-/

namespace Clearance

/-- An object before its ciphertext is read. -/
structure RawRecord where
  id : String
  sourceType : String
  ciphertext : List UInt8 := []
  dynamicFields : Option String := none
  geo : Option String := none
  timestamp : Option String := none
  deriving DecidableEq, Repr

/-- A note on an object; its attributes are a document in `search`. -/
structure Note where
  id : String
  parentId : Option String := none
  search : Option String := none
  deriving DecidableEq, Repr

open Json

/-- A text that may be missing, in any kind of document. -/
def optionalText (name : String) : RecordField (Option String) :=
  ⟨name, .option .text, .anywhere none, fun _ => false⟩

/-- A text that has to be there. -/
def requiredText (name : String) : RecordField String := ⟨name, .text, .refused, fun _ => false⟩

/-- The document of an object record. -/
def RawRecord.format : Format RawRecord :=
  .record "RawRecord"
    (.cons (requiredText "id") <| .cons (requiredText "sourceTypeId") <|
      .cons ⟨"ciphertextBlob", .list .byte, .anywhere [], fun _ => false⟩ <|
      .cons (optionalText "dynamicPlaintextFields") <| .cons (optionalText "geo") <|
      .cons (optionalText "timestamp") .nil)
    (fun (id, sourceType, ciphertext, dynamicFields, geo, timestamp, ()) =>
      ⟨id, sourceType, ciphertext, dynamicFields, geo, timestamp⟩)
    (fun r => (r.id, r.sourceType, r.ciphertext, r.dynamicFields, r.geo, r.timestamp, ()))

/-- The document of a note. -/
def Note.format : Format Note :=
  .record "NoteRecord"
    (.cons (requiredText "id") <| .cons (optionalText "parentId") <|
      .cons (optionalText "search") .nil)
    (fun (id, parentId, search, ()) => ⟨id, parentId, search⟩)
    (fun n => (n.id, n.parentId, n.search, ()))

end Clearance
