import FrontierBus.Proofs.Host.Names

/-!
# Authorities that are a name and a number

A locator for the web whose authority is a name of letters, with a number or none, names that host,
whatever follows the authority, unless the number is too large.
-/

namespace FrontierBus.Host

open FrontierBus.Text

/-- What may stand behind a host: a colon and one figure or more, or nothing. -/
inductive IsNumber : List Char → Prop where
  | none : IsNumber []
  | figures {first : Char} {rest : List Char}
      (digits : ∀ figure ∈ first :: rest, figure.isDigit = true) : IsNumber (':' :: first :: rest)

/-- A character that a path, a query or a fragment begins with. -/
def IsMark (character : Char) : Prop :=
  character = '/' ∨ character = '?' ∨ character = '#'

/-- What may follow an authority: a path, a query or a fragment, or nothing. -/
def IsTail (tail : List Char) : Prop :=
  ∀ first, tail.head? = some first → IsMark first

/-- A letter, a figure, a dot or a colon. -/
def isAuthorityPart (character : Char) : Bool :=
  character.isAlphanum || character == '.' || character == ':'

variable {host port tail text : List Char} {character : Char}

theorem forall_authorityPart (holds : Char → Prop)
    (each : ∀ code < 128, isAuthorityPart (Char.ofNat code) = true → holds (Char.ofNat code))
    (part : isAuthorityPart character = true) : holds character := by
  have plain : character.toNat < 128 := by
    simp only [isAuthorityPart, Bool.or_eq_true, beq_iff_eq] at part
    rcases part with (alphanum | rfl) | rfl
    · exact ascii_of_alphanum alphanum
    · decide
    · decide
  exact forall_ascii (fun character => isAuthorityPart character = true → holds character) each plain
    part

theorem IsNumber.parts (number : IsNumber port) :
    ∀ character ∈ port, isAuthorityPart character = true := by
  cases number with
  | none => simp
  | figures digits =>
      rw [List.forall_mem_cons]
      refine ⟨rfl, ?_⟩
      intro figure present
      simp [isAuthorityPart, Char.isAlphanum, digits figure present]

/-- What holds of each character that may stand in an authority holds of those of a name and a
number. -/
theorem authority_all (name : IsName host) (number : IsNumber port) (holds : Char → Prop)
    (each : ∀ code < 128, isAuthorityPart (Char.ofNat code) = true → holds (Char.ofNat code)) :
    ∀ character ∈ host ++ port, holds character := by
  rw [List.forall_mem_append]
  constructor
  · intro character present
    exact forall_authorityPart holds each (name.all (isAuthorityPart ·) (by decide) character present)
  · intro character present
    exact forall_authorityPart holds each (number.parts character present)

namespace IsTail

theorem shorten (isTail : IsTail tail) (begins : text <+: tail) : IsTail text := by
  intro first isFirst
  rcases begins with ⟨rest, rfl⟩
  apply isTail
  rw [List.head?_append, isFirst]
  rfl

/-- Taking tabs and line ends out leaves a tail. -/
theorem visible (isTail : IsTail tail) : IsTail (Drive.visible tail) := by
  cases tail with
  | nil => exact isTail
  | cons first rest =>
      have seen : Drive.isBreak first = false := by
        rcases isTail first rfl with rfl | rfl | rfl
        · rfl
        · rfl
        · rfl
      simp only [Drive.visible, List.filter_cons, seen, Bool.not_false, if_true]
      exact isTail

end IsTail

namespace Locator

/-- An authority ends where its tail begins, and names no user. -/
theorem behindUser_eq {goesOn : Char → Bool} (name : IsName host) (number : IsNumber port)
    (isTail : IsTail tail)
    (inside : ∀ code < 128, isAuthorityPart (Char.ofNat code) = true →
      goesOn (Char.ofNat code) = true)
    (ends : ∀ mark, IsMark mark → goesOn mark = false) :
    behindUser ((host ++ port ++ tail).takeWhile goesOn) = host ++ port := by
  have noUser : ∀ character ∈ (host ++ port).reverse, decide (character ≠ '@') = true := by
    intro character present
    rw [List.mem_reverse] at present
    exact decide_eq_true (authority_all name number (· ≠ '@') (by decide) character present)
  rw [takeWhile_append_eq (authority_all name number (goesOn ·) inside)
    fun first isFirst => ends first (isTail first isFirst)]
  rw [behindUser, List.takeWhile_eq_self_iff.mpr noUser, List.reverse_reverse]

theorem splitNumber_append (name : ∀ character ∈ host, isNamePart character = true)
    (rest : List Char) :
    splitNumber false (host ++ rest) =
      (host ++ (splitNumber false rest).1, (splitNumber false rest).2) := by
  induction host with
  | nil => rfl
  | cons first others hypothesis =>
      rcases List.forall_mem_cons.mp name with ⟨part, name⟩
      have outside : first ≠ ':' ∧ first ≠ '[' ∧ first ≠ ']' :=
        forall_namePart (fun first => first ≠ ':' ∧ first ≠ '[' ∧ first ≠ ']') (by decide)
          part
      rw [List.cons_append, splitNumber, if_neg outside.2.1, if_neg outside.2.2, hypothesis name]
      · rfl
      · exact outside.1

/-- The number behind a host, if there is one, is below 2 to the 16. -/
def isServed : List Char → Bool
  | [] => true
  | _ :: figures => isServiceNumber figures

theorem splitNumber_authority (name : IsName host) (number : IsNumber port) :
    splitNumber false (host ++ port) = (host, if port = [] then none else some port.tail) := by
  rw [splitNumber_append name.parts]
  cases number with
  | none => simp [splitNumber]
  | figures digits => simp [splitNumber]

/-- The host of an authority is its name in lower case, unless the number is too large. -/
theorem authorityHost_eq (name : IsName host) (number : IsNumber port) (isTail : IsTail tail) :
    authorityHost .network (host ++ port ++ tail) =
      if isServed port then some (host.map Char.toLower) else none := by
  have authority : behindUser ((host ++ port ++ tail).takeWhile (!endsAuthority .network ·)) =
      host ++ port := by
    apply behindUser_eq name number isTail (by decide)
    rintro _ (rfl | rfl | rfl)
    · rfl
    · rfl
    · rfl
  simp only [authorityHost, authority, splitNumber_authority name number, name.networkHost_eq]
  cases number with
  | none => rfl
  | figures digits => rfl

/-- A scheme for the web, with the mark behind it. -/
def IsWeb (scheme : List Char) : Prop :=
  scheme = "http://".toList ∨ scheme = "https://".toList

theorem graphic_web {scheme : List Char} (web : IsWeb scheme) :
    ∀ character ∈ scheme, isGraphic character = true := by
  rcases web with rfl | rfl
  · exact List.all_eq_true.mp rfl
  · exact List.all_eq_true.mp rfl

theorem splitScheme_web {scheme : List Char} (web : IsWeb scheme) (rest : List Char) :
    ∃ name, splitScheme (scheme ++ rest) = some (name, '/' :: '/' :: rest) ∧
      Scheme.named name = .network := by
  rcases web with rfl | rfl
  · exact ⟨"http".toList, rfl, by decide⟩
  · exact ⟨"https".toList, rfl, by decide⟩

/-- What is not seen is taken out of a text behind a front that is. -/
theorem visible_bare {front : List Char} (something : front ≠ [])
    (graphic : ∀ character ∈ front, isGraphic character = true) (rest : List Char) :
    Drive.visible (bare (front ++ rest)) =
      front ++ Drive.visible (rest.rdropWhile fun character => character.toNat ≤ 0x20) := by
  have seen : ∀ character ∈ front, (!Drive.isBreak character) = true := fun character present =>
    forall_graphic (!Drive.isBreak ·) (by decide) (graphic character present)
  have solid : ∀ character ∈ front, decide (character.toNat ≤ 0x20) = false :=
    fun character present =>
      forall_graphic (fun character => decide (character.toNat ≤ 0x20) = false) (by decide)
        (graphic character present)
  rw [bare, strip_append something solid, Drive.visible, List.filter_append,
    List.filter_eq_self.mpr seen]
  rfl

theorem isTail_visible (isTail : IsTail tail) :
    IsTail (Drive.visible (tail.rdropWhile fun character => character.toNat ≤ 0x20)) :=
  (isTail.shorten (List.rdropWhile_prefix _ tail)).visible

/-- A locator for the web names the host of its authority. -/
theorem host?_web {scheme : List Char} (web : IsWeb scheme)
    (name : IsName host) (number : IsNumber port) (isTail : IsTail tail) :
    host? (scheme ++ (host ++ port) ++ tail) =
      if isServed port then some (host.map Char.toLower) else none := by
  have graphic : ∀ character ∈ scheme ++ (host ++ port), isGraphic character = true := by
    rw [List.forall_mem_append]
    exact ⟨graphic_web web, authority_all name number (isGraphic ·) (by decide)⟩
  have something : scheme ++ (host ++ port) ≠ [] := by simp [name.something]
  let rest := Drive.visible (tail.rdropWhile fun character => character.toNat ≤ 0x20)
  have whole : Drive.visible (bare (scheme ++ (host ++ port) ++ tail)) =
      scheme ++ (host ++ port ++ rest) := by
    rw [visible_bare something graphic, List.append_assoc]
  rcases splitScheme_web web (host ++ port ++ rest) with ⟨spelling, isSplit, isNetwork⟩
  have slashes : ('/' :: '/' :: (host ++ port ++ rest)).dropWhile Drive.isSlash =
      host ++ port ++ rest := by
    rcases List.exists_cons_of_ne_nil name.something with ⟨first, others, rfl⟩
    have noSlash := name.all (Drive.isSlash · = false) (by decide) first List.mem_cons_self
    have isSlash : Drive.isSlash '/' = true := rfl
    simp [isSlash, noSlash]
  simp only [host?, whole, isSplit, isNetwork, slashes]
  exact authorityHost_eq name number (isTail_visible isTail)

/-- A scheme is what stands before the first character that is none of a scheme, if that is a colon.
-/
theorem splitScheme_append {front : List Char} (rest : List Char)
    (inside : ∀ character ∈ front, isSchemeCharacter character = true)
    (boundary : ∀ character, rest.head? = some character → isSchemeCharacter character = false) :
    splitScheme (front ++ rest) = none ∨ ∃ body, rest = ':' :: body ∧
      splitScheme (front ++ rest) = some (front.map Char.toLower, body) := by
  unfold splitScheme
  split
  · exact Or.inl rfl
  · split
    · rw [dropWhile_append_eq inside boundary, takeWhile_append_eq inside boundary]
      split
      · exact Or.inr ⟨_, rfl, rfl⟩
      · exact Or.inl rfl
    · exact Or.inl rfl

/-- Under a scheme that is none for the web there is no host unless slashes follow. -/
theorem host?_of_noSlash {spelling body : List Char}
    (isSplit : splitScheme (Drive.visible (bare text)) = some (spelling, body))
    (notNetwork : Scheme.named spelling ≠ .network)
    (noSlash : ∀ first, body.head? = some first → Drive.isSlash first = false) :
    host? text = none := by
  simp only [host?, isSplit]
  cases treatment : Scheme.named spelling with
  | network => exact absurd treatment notNetwork
  | file =>
      simp only
      split
      · rename_i first second rest
        simp [noSlash first rfl]
      · rfl
  | other =>
      simp only
      split
      · cases noSlash '/' rfl
      · rfl

/-- Without a scheme a text is no locator, unless its host is called like a scheme for the web and a
number is behind it. -/
theorem host?_bare (name : IsName host) (number : IsNumber port) (isTail : IsTail tail)
    (other : port = [] ∨ Scheme.named (host.map Char.toLower) ≠ .network) :
    host? (host ++ port ++ tail) = none := by
  have something : host ++ port ≠ [] := by simp [name.something]
  have graphic := authority_all name number (isGraphic ·) (by decide)
  have inside := name.all (isSchemeCharacter ·) (by decide)
  let rest := Drive.visible (tail.rdropWhile fun character => character.toNat ≤ 0x20)
  have isTailRest : IsTail rest := isTail_visible isTail
  have whole : Drive.visible (bare (host ++ port ++ tail)) = host ++ (port ++ rest) := by
    rw [visible_bare something graphic, List.append_assoc]
  cases number with
  | none =>
      have isMark : ∀ mark, rest.head? = some mark →
          isSchemeCharacter mark = false ∧ mark ≠ ':' := by
        intro mark isFirst
        rcases isTailRest mark isFirst with rfl | rfl | rfl
        · decide
        · decide
        · decide
      rcases splitScheme_append rest inside fun mark isFirst => (isMark mark isFirst).1 with
        noScheme | ⟨body, isBody, _⟩
      · simp only [host?, whole, List.nil_append, noScheme]
      · rw [isBody] at isMark
        exact absurd rfl (isMark ':' rfl).2
  | @figures figure more digits =>
      rcases splitScheme_append (':' :: figure :: more ++ rest) inside (by rintro _ ⟨⟩; rfl) with
        noScheme | ⟨body, isBody, isSplit⟩
      · simp only [host?, whole, noScheme]
      · rw [← whole] at isSplit
        rcases other with nothing | notNetwork
        · cases nothing
        · apply host?_of_noSlash isSplit notNetwork
          cases isBody
          rintro _ ⟨⟩
          have digit := digits figure List.mem_cons_self
          exact forall_authorityPart (fun figure => figure.isDigit = true →
              Drive.isSlash figure = false) (by decide)
            (by simp [isAuthorityPart, Char.isAlphanum, digit]) digit

end Locator

end FrontierBus.Host
