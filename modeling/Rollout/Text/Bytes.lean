/-! Texts as bytes in UTF-8. -/

namespace Rollout.Text

def bytes (s : String) : List UInt8 := s.toByteArray.data.toList

/-- The text, unless the bytes are not UTF-8. -/
def ofBytes? (u : List UInt8) : Option String := String.fromUTF8? ⟨u.toArray⟩

end Rollout.Text
