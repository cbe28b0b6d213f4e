import Rollout.Text.Blank
import Rollout.Url.Host
import Rollout.Url.Path
import Rollout.UrlParser

/-! URLs out of text. -/

namespace Rollout.Url

def splitScheme (s : List Char) : Option (String × List Char) :=
  let inScheme := fun c : Char => c.isAlphanum || c == '+' || c == '-' || c == '.'
  match s.takeWhile inScheme, s.dropWhile inScheme with
  | first :: name, ':' :: rest =>
    if first.isAlpha then some (String.ofList ((first :: name).map Char.toLower), rest) else none
  | _, _ => none

def endsAuthority (special : Bool) (c : Char) : Bool :=
  c == '/' || c == '?' || c == '#' || (special && c == '\\')

def splitHost (bracketed : Bool) : List Char → List Char × Option (List Char)
  | [] => ([], none)
  | c :: s =>
    -- Brackets hide the colons of an IPv6 address.
    if c == ':' && !bracketed then ([], some s)
    else
      let bracketed := if c == '[' then true else if c == ']' then false else bracketed
      let (host, port) := splitHost bracketed s
      (c :: host, port)

def readPort (scheme : String) (s : List Char) : Except UrlError (Option Nat × List Char) :=
  let (digits, rest) := s.span Char.isDigit
  let port := Text.ofDigits digits
  if 65535 < port then .error .invalidPort
  else if digits = [] ∨ defaultPort? scheme = some port then .ok (none, rest)
  else .ok (some port, rest)

def readUser (s : List Char) : String × String :=
  let (username, password) := (Text.cut? ':' s).getD (s, [])
  (encodeText inUser username, encodeText inUser password)

/--
The authority at the front of `s`, up to where its scheme ends it, and the rest of the text. A
backslash may end a port in any scheme.
-/
def readAuthority (scheme : String) (s : List Char) : Except UrlError (Authority × List Char) := do
  let special := (SchemeKind.of scheme).isSpecial
  let (text, rest) := s.span fun c => !endsAuthority special c
  let (user, hostPort) := (Text.cutLast? '@' text).getD ([], text)
  if (Text.cutLast? '@' text).map (·.1) = some [] ∧ hostPort = [] ∧ rest ≠ [] then throw .emptyHost
  let (username, password) := readUser user
  let (hostText, portText) := splitHost false hostPort
  if special ∧ hostText = [] then throw .emptyHost
  let host ← Host.parse special hostText
  if host = .name "" ∧ (portText.isSome ∨ username ≠ "" ∨ password ≠ "") then throw .emptyHost
  let (port, behind) ← readPort scheme (portText.getD [])
  match behind with
  | [] => return (⟨username, password, host, port⟩, rest)
  | '\\' :: _ => return (⟨username, password, host, port⟩, behind ++ rest)
  | _ => throw .invalidPort

def splitTail (special : Bool) (s : List Char) : List Char × Option String × Option String :=
  let (path, tail) := s.span fun c => c != '?' && c != '#'
  match tail with
  | '?' :: tail =>
    match tail.span (· != '#') with
    | (query, _ :: fragment) =>
      (path, some (encodeText (inQuery special) query), some (encodeText inFragment fragment))
    | (query, []) => (path, some (encodeText (inQuery special) query), none)
  | _ :: fragment => (path, none, some (encodeText inFragment fragment))
  | [] => (path, none, none)

def pathBehind (kind : SchemeKind) (s : List Char) : String × Bool :=
  match s with
  | [] => if kind.isSpecial then Path.resolve kind [] else ("", false)
  | '/' :: s => Path.resolve kind s
  | c :: s => Path.resolve kind (if kind.isSpecial && c == '\\' then s else c :: s)

def isSlash (c : Char) : Bool := c == '/' || c == '\\'

def parseSpecial (scheme : String) (s : List Char) : Except UrlError Url := do
  let (authority, rest) ← readAuthority scheme (s.dropWhile isSlash)
  let (path, query, fragment) := splitTail true rest
  return ⟨scheme, some authority, (pathBehind .special path).1, query, fragment⟩

def parseOther (scheme : String) (s : List Char) : Except UrlError Url := do
  match s with
  | '/' :: '/' :: s =>
    let (authority, rest) ← readAuthority scheme s
    let (path, query, fragment) := splitTail false rest
    return ⟨scheme, some authority, (pathBehind .other path).1, query, fragment⟩
  | '/' :: s =>
    let (path, query, fragment) := splitTail false s
    return ⟨scheme, none, (Path.resolve .other path).1, query, fragment⟩
  | s =>
    let (path, query, fragment) := splitTail false s
    return ⟨scheme, none, encodeText isControl path, query, fragment⟩

def fileHost (s : List Char) : Except UrlError Host :=
  if s = [] then .ok (.name "")
  else
    match Host.parse true s with
    | .ok (.name "localhost") => .ok (.name "")
    | host => host

def parseFile (s : List Char) : Except UrlError Url := do
  let (s, query, fragment) := splitTail true s
  let (host, (path, onDrive)) ← match s with
    | a :: b :: rest =>
      if isSlash a && isSlash b then
        let (host, behind) := rest.span fun c => !isSlash c
        if Path.isDrive host then pure (.name "", Path.resolve .file rest)
        else pure (← fileHost host, pathBehind .file behind)
      else pure (.name "", pathBehind .file s)
    | s => pure (.name "", pathBehind .file s)
  let host := if onDrive then .name "" else host
  return ⟨"file", some ⟨"", "", host, none⟩, path, query, fragment⟩

/-- The URL of a text. Controls and spaces around it and line breaks within it do not count. -/
def parse (text : String) : Except UrlError Url :=
  let s := Text.trimWhile (·.toNat ≤ 0x20) text.toList
  match splitScheme (s.filter fun c => c != '\t' && c != '\n' && c != '\r') with
  | none => .error .relativeWithoutBase
  | some (scheme, s) =>
    match SchemeKind.of scheme with
    | .file => parseFile s
    | .special => parseSpecial scheme s
    | .other => parseOther scheme s

theorem splitScheme_front {s : List Char} {p : String × List Char} (h : splitScheme s = some p) :
    ':' ∈ s ∧ ∃ letter, s.head? = some letter ∧ letter.isAlpha := by
  simp only [splitScheme] at h
  split at h
  · next first name rest hfront hbehind =>
    split at h
    · next hfirst =>
      rw [← List.takeWhile_append_dropWhile (l := s), hfront, hbehind]
      exact ⟨List.mem_append_right _ List.mem_cons_self, first, rfl, hfirst⟩
    · cases h
  · cases h

theorem mem_trimWhile {p : Char → Bool} {s : List Char} {c : Char} (h : c ∈ Text.trimWhile p s) :
    c ∈ s := by
  rw [Text.trimWhile, Text.dropEndWhile, List.mem_reverse] at h
  exact (List.dropWhile_sublist p).mem (List.mem_reverse.mp ((List.dropWhile_sublist p).mem h))

/-- What is first behind the blanks, none of which is kept, has only blanks in front of it. -/
theorem front_of_trimWhile {blank kept : Char → Bool} {s : List Char} {c : Char}
    (hkept : ∀ d, blank d = false → kept d = true)
    (h : ((Text.trimWhile blank s).filter kept).head? = some c) :
    ∃ front rest, s = front ++ c :: rest ∧ ∀ d ∈ front, blank d = true := by
  cases hbehind : s.dropWhile blank with
  | nil =>
    rw [Text.trimWhile, hbehind] at h
    cases h
  | cons d behind =>
    have hd : blank d = false := by simpa [hbehind] using List.head?_dropWhile_not blank s
    have hprefix : Text.trimWhile blank s <+: d :: behind := by
      rw [Text.trimWhile, hbehind, Text.dropEndWhile, ← List.reverse_suffix, List.reverse_reverse]
      exact List.dropWhile_suffix blank
    cases htrim : Text.trimWhile blank s with
    | nil =>
      rw [htrim] at h
      cases h
    | cons e rest =>
      rw [htrim] at h hprefix
      obtain ⟨rfl, -⟩ := List.cons_prefix_cons.mp hprefix
      rw [List.filter_cons_of_pos (hkept e hd)] at h
      obtain rfl := Option.some.inj h
      refine ⟨s.takeWhile blank, behind, ?_, List.all_eq_true.mp List.all_takeWhile⟩
      rw [← hbehind, List.takeWhile_append_dropWhile]

theorem parse_front {text : String} {url : Url} (h : parse text = .ok url) :
    ':' ∈ text.toList ∧ ∃ front rest letter, text.toList = front ++ letter :: rest ∧
      (∀ c ∈ front, c.toNat ≤ 0x20) ∧ letter.isAlpha := by
  simp only [parse] at h
  split at h
  · cases h
  · next scheme s hscheme =>
    obtain ⟨hcolon, letter, hletter, halpha⟩ := splitScheme_front hscheme
    have hkept : ∀ d : Char, decide (d.toNat ≤ 0x20) = false →
        (d != '\t' && d != '\n' && d != '\r') = true := by
      intro d hd
      have hne : ∀ e : Char, e.toNat ≤ 0x20 → d ≠ e := by
        rintro e he rfl
        exact of_decide_eq_false hd he
      simp [hne]
    obtain ⟨front, rest, htext, hfront⟩ := front_of_trimWhile hkept hletter
    exact ⟨mem_trimWhile (List.mem_filter.mp hcolon).1, front, rest, letter, htext,
      fun c hc => of_decide_eq_true (hfront c hc), halpha⟩

/-- The parser by these rules, which have no mapping of host names outside ASCII. -/
def parser : UrlParser where
  parse text :=
    match parse text with
    | .ok url => .ok url.text
    | .error e => .error e.message
  scheme h := by
    split at h
    · next hparse => exact parse_front hparse
    · cases h

end Rollout.Url
