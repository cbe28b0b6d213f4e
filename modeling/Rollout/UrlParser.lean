/-! What is asked of a parser of URLs. -/

namespace Rollout

/--
The normal form of a URL, or what is wrong with a text. Behind controls and spaces a URL begins with
the letter of a scheme, and a colon ends the scheme.
-/
structure UrlParser where
  parse : String → Except String String
  scheme {text url : String} : parse text = .ok url → ':' ∈ text.toList ∧
    ∃ front rest letter, text.toList = front ++ letter :: rest ∧
      (∀ c ∈ front, c.toNat ≤ 0x20) ∧ letter.isAlpha

namespace UrlParser

def accepts (urls : UrlParser) (text : String) : Bool := (urls.parse text).toOption.isSome

end UrlParser

end Rollout
