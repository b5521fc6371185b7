import AgentFirstMail.Store.Overlay

namespace AgentFirstMail

def readToString (context : String) (bytes : Bytes) : Result (List Char) :=
  match String.fromUTF8? ⟨bytes.toArray⟩ with
  | some text => .ok text.toList
  | none => .error (storeError s!"{context}: stream did not contain valid UTF-8")

/-- The bytes of a text that is written to a file. -/
def textBytes (text : List Char) : Bytes := (String.ofList text).toUTF8.data.toList

theorem readToString_textBytes (context : String) (text : List Char) :
    readToString context (textBytes text) = .ok text := by
  have hbytes : (⟨(textBytes text).toArray⟩ : ByteArray) = text.utf8Encode := rfl
  rw [readToString, hbytes, String.fromUTF8?, dif_pos ByteArray.isValidUTF8_utf8Encode]
  exact congrArg Except.ok String.toList_ofList

theorem textBytes_toList {bytes : Bytes} {text : String}
    (h : String.fromUTF8? ⟨bytes.toArray⟩ = some text) : textBytes text.toList = bytes := by
  rw [String.fromUTF8?] at h
  split at h
  · cases h
    rw [textBytes, String.ofList_toList]
    rfl
  · cases h

end AgentFirstMail
