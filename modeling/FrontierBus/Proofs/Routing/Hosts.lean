import FrontierBus.Partitioning
import FrontierBus.Proofs.Host.Authorities
import FrontierBus.Proofs.Routing.Checksums
import Mathlib.Data.List.Infix

/-!
# Routing by host

A key that names a host of letters goes where the bare host goes, in whatever case the host is
written, with a scheme for the web or none, and whatever follows it. There is one exception: if a
key without a scheme has the mark of a scheme somewhere in what follows the host, it goes by what
stands there.
-/

namespace FrontierBus.Partitioning

open FrontierBus.Text FrontierBus.Host

variable {host port tail text front : List Char} {key : ByteArray}

section Mark

theorem behind?_cons {first : Char} (noColon : first ≠ ':') (rest : List Char) :
    behind? schemeMark (first :: rest) = behind? schemeMark rest := by
  rw [behind?, if_neg]
  simp [schemeMark, Ne.symm noColon]

theorem behind?_append (noColon : ∀ character ∈ front, character ≠ ':') (rest : List Char) :
    behind? schemeMark (front ++ rest) = behind? schemeMark rest := by
  induction front with
  | nil => rfl
  | cons first others hypothesis =>
      rcases List.forall_mem_cons.mp noColon with ⟨noColonFirst, noColonRest⟩
      rw [List.cons_append, behind?_cons noColonFirst, hypothesis noColonRest]

/-- The colon before a number is not that of a scheme. -/
theorem behind?_authority (name : IsName host) (number : IsNumber port) (rest : List Char) :
    behind? schemeMark (host ++ port ++ rest) = behind? schemeMark rest := by
  rw [List.append_assoc, behind?_append (name.all (· ≠ ':') (by decide))]
  cases number with
  | none => rfl
  | @figures first others digits =>
      have noSlash : first ≠ '/' := by
        rintro rfl
        exact absurd (digits '/' List.mem_cons_self) (by decide)
      have noColonBehind : ∀ figure ∈ first :: others, figure ≠ ':' := by
        rintro _ present rfl
        exact absurd (digits ':' present) (by decide)
      rw [List.cons_append, behind?, if_neg, behind?_append noColonBehind]
      simp [schemeMark, Ne.symm noSlash]

/-- Something stands behind the mark just if the mark is there. -/
theorem isSome_behind?_iff : (behind? schemeMark text).isSome = true ↔ schemeMark <:+: text := by
  induction text with
  | nil => decide
  | cons first rest hypothesis =>
      rw [List.infix_cons_iff, ← List.isPrefixOf_iff_prefix, behind?]
      split
      · rename_i begins
        simp [begins]
      · rename_i notHere
        simp [notHere, hypothesis]

theorem behind?_eq_none_iff : behind? schemeMark text = none ↔ ¬schemeMark <:+: text := by
  rw [← isSome_behind?_iff]
  simp

end Mark

section BareHost

theorem withoutNumber_eq (name : IsName host) (number : IsNumber port) :
    withoutNumber (host ++ port) = host := by
  cases number with
  | none =>
      have noColon : ':' ∉ host := fun present =>
        absurd (name.parts ':' present) (by decide)
      simp [withoutNumber, noColon]
  | @figures first others digits =>
      have isNumber : ((host ++ ':' :: first :: others).reverse.takeWhile (· ≠ ':')).reverse =
          first :: others := by
        have noColon : ∀ figure ∈ (first :: others).reverse, decide (figure ≠ ':') = true := by
          intro figure present
          rw [List.mem_reverse] at present
          apply decide_eq_true
          rintro rfl
          exact absurd (digits ':' present) (by decide)
        have isReverse : (host ++ ':' :: first :: others).reverse =
            (first :: others).reverse ++ ':' :: host.reverse := by simp
        rw [isReverse, takeWhile_append_eq noColon (by rintro _ ⟨⟩; rfl), List.reverse_reverse]
      have isShown : ((host ++ ':' :: first :: others).contains ':' && !(first :: others).isEmpty &&
          (first :: others).all Char.isDigit) = true := by
        rw [List.all_eq_true.mpr digits]
        simp
      have isLength : (host ++ ':' :: first :: others).length - (first :: others).length - 1 =
          host.length := by
        simp only [List.length_append, List.length_cons]
        omega
      simp only [withoutNumber, isNumber]
      rw [if_pos isShown, isLength, List.take_left]

theorem bareHost_eq (name : IsName host) (number : IsNumber port) (isTail : IsTail tail)
    (isRest : (behind? schemeMark text).getD text = host ++ port ++ tail) :
    bareHost text = host.map Char.toLower := by
  have authority : Locator.behindUser ((host ++ port ++ tail).takeWhile fun character =>
      !(['/', '?', '#'].contains character)) = host ++ port := by
    apply Locator.behindUser_eq name number isTail (by decide)
    rintro _ (rfl | rfl | rfl)
    · rfl
    · rfl
    · rfl
  simp only [bareHost, isRest, authority, withoutNumber_eq name number]

end BareHost

/-- Octets that may follow an authority in a key: those of a path, a query or a fragment, whatever
stands in it, or none. -/
def IsSuffix (suffix : ByteArray) : Prop :=
  suffix = ByteArray.empty ∨
    ∃ mark rest, IsMark mark ∧ suffix = (String.ofList [mark]).toUTF8 ++ rest

/-- A key that begins with a text in ASCII and goes on with some octets. -/
def written (front : List Char) (suffix : ByteArray) : ByteArray :=
  (String.ofList front).toUTF8 ++ suffix

variable {scheme : List Char} {suffix : ByteArray}

theorem isTail_lossy (isSuffix : IsSuffix suffix) : IsTail (Utf8.lossy suffix).toList := by
  rcases isSuffix with rfl | ⟨mark, rest, isMark, rfl⟩
  · rintro _ ⟨⟩
  · have plain : ∀ character ∈ [mark], character.toNat < 128 := by
      rw [List.forall_mem_singleton]
      rcases isMark with rfl | rfl | rfl
      · decide
      · decide
      · decide
    rw [Utf8.toList_lossy_append plain]
    rintro _ ⟨⟩
    exact isMark

/-- Of a key that begins with what is seen only blanks at the end are taken. -/
theorem strip_written (something : front ≠ [])
    (graphic : ∀ character ∈ front, isGraphic character = true) (suffix : ByteArray) :
    strip isBlank (Utf8.lossy (written front suffix)).toList =
      front ++ (Utf8.lossy suffix).toList.rdropWhile isBlank := by
  have plain : ∀ character ∈ front, character.toNat < 128 := fun character present =>
    forall_graphic (·.toNat < 128) (by decide) (graphic character present)
  have solid : ∀ character ∈ front, isBlank character = false := fun character present =>
    forall_graphic (isBlank · = false) (by decide) (graphic character present)
  rw [written, Utf8.toList_lossy_append plain, strip_append something solid]

/-- The host of a key is told either by the locator that it is read as or, if its number is too
large, by its bare authority, and both tell the same. -/
theorem hostOf_eq (web : Locator.IsWeb scheme) (name : IsName host) (number : IsNumber port)
    (isTail : IsTail tail) (isText : strip isBlank (Utf8.lossy key).toList = text)
    (isLocator : (if (behind? schemeMark text).isSome then text else "http://".toList ++ text) =
      scheme ++ (host ++ port) ++ tail)
    (isRest : (behind? schemeMark text).getD text = host ++ port ++ tail) :
    hostOf key = host.map Char.toLower := by
  simp only [hostOf, isText, isLocator, Locator.host?_web web name number isTail]
  by_cases served : Locator.isServed port = true
  · rw [if_pos served]
    exact name.map_toLower_toLower
  · rw [if_neg served]
    exact bareHost_eq name number isTail isRest

theorem behind?_web (web : Locator.IsWeb scheme) (rest : List Char) :
    behind? schemeMark (scheme ++ rest) = some rest := by
  rcases web with rfl | rfl
  · rfl
  · rfl

/-- A locator for the web tells its host, whatever follows. -/
theorem hostOf_web (web : Locator.IsWeb scheme) (name : IsName host) (number : IsNumber port)
    (isSuffix : IsSuffix suffix) :
    hostOf (written (scheme ++ (host ++ port)) suffix) = host.map Char.toLower := by
  have graphic : ∀ character ∈ scheme ++ (host ++ port), isGraphic character = true := by
    rw [List.forall_mem_append]
    exact ⟨Locator.graphic_web web, authority_all name number (isGraphic ·) (by decide)⟩
  have isTail := (isTail_lossy isSuffix).shorten (List.rdropWhile_prefix isBlank _)
  have behind := behind?_web web
    (host ++ port ++ (Utf8.lossy suffix).toList.rdropWhile isBlank)
  rw [← List.append_assoc] at behind
  refine hostOf_eq web name number isTail (strip_written (by simp [name.something]) graphic suffix)
    ?_ ?_
  · rw [behind]
    rfl
  · rw [behind]
    rfl

/-- Without a scheme the host is told as well, unless the mark of a scheme follows somewhere. -/
theorem hostOf_bare (name : IsName host) (number : IsNumber port) (isSuffix : IsSuffix suffix)
    (unmarked : ¬schemeMark <:+: (Utf8.lossy suffix).toList) :
    hostOf (written (host ++ port) suffix) = host.map Char.toLower := by
  have graphic := authority_all name number (isGraphic ·) (by decide)
  have isTail := (isTail_lossy isSuffix).shorten (List.rdropWhile_prefix isBlank _)
  have behind : behind? schemeMark
      (host ++ port ++ (Utf8.lossy suffix).toList.rdropWhile isBlank) = none := by
    rw [behind?_authority name number, behind?_eq_none_iff]
    exact fun marked => unmarked (marked.trans (List.rdropWhile_prefix isBlank _).isInfix)
  refine hostOf_eq (.inl rfl) name number isTail
    (strip_written (by simp [name.something]) graphic suffix) ?_ ?_
  · rw [behind]
    rfl
  · rw [behind]
    rfl

theorem strip_tail (isTail : IsTail tail) : strip isBlank tail = tail.rdropWhile isBlank := by
  cases tail with
  | nil => rfl
  | cons first rest =>
      have solid : ∀ character ∈ [first], isBlank character = false := by
        rw [List.forall_mem_singleton]
        rcases isTail first rfl with rfl | rfl | rfl
        · rfl
        · rfl
        · rfl
      rw [← List.singleton_append, strip_append (List.cons_ne_nil first []) solid,
        rdropWhile_append]
      rintro _ ⟨⟩
      exact solid first (List.mem_singleton_self first)

/-- No part of the mark is blank, so it is not taken off an end. -/
theorem infix_rdropWhile (marked : schemeMark <:+: text) :
    schemeMark <:+: text.rdropWhile isBlank := by
  rcases marked with ⟨before, after, isWhole⟩
  rw [← isWhole, rdropWhile_append]
  · exact ⟨before, _, rfl⟩
  · intro last isLast
    rw [List.getLast?_append] at isLast
    cases isLast
    rfl

/-- If the mark of a scheme follows, the host is what stands behind it, and the name in front counts
for nothing. -/
theorem hostOf_marked (name : IsName host) (number : IsNumber port) (isSuffix : IsSuffix suffix)
    (marked : schemeMark <:+: (Utf8.lossy suffix).toList)
    (other : port = [] ∨ Locator.Scheme.named (host.map Char.toLower) ≠ .network) :
    hostOf (written (host ++ port) suffix) =
      bareHost (strip isBlank (Utf8.lossy suffix).toList) := by
  have isTail := isTail_lossy isSuffix
  have graphic := authority_all name number (isGraphic ·) (by decide)
  have isText := strip_written (by simp [name.something]) graphic suffix
  have isSome := isSome_behind?_iff.mpr (infix_rdropWhile marked)
  rcases Option.isSome_iff_exists.mp isSome with ⟨rest, isRest⟩
  have behind := behind?_authority name number ((Utf8.lossy suffix).toList.rdropWhile isBlank)
  rw [isRest] at behind
  simp only [hostOf, isText, behind, Option.isSome_some, if_true,
    Locator.host?_bare name number (isTail.shorten (List.rdropWhile_prefix isBlank _)) other]
  simp only [bareHost, strip_tail isTail, behind, isRest, Option.getD_some]

theorem route_eq (isHost : hostOf key = host) (count : Nat) :
    hostname.route key count =
      if count = 0 then 0 else (Checksum.crc32Text (String.ofList host)).toNat % count := by
  rw [route, hash, isHost]

/-- A key goes by the checksum of its host in lower case: as a bare host; as a locator for the web,
in whatever case its host is written, with a number or none, and whatever follows; and without a
scheme, unless the mark of a scheme stands in what follows. If it does, what stands behind it counts
instead of the host. -/
theorem route_by_host {other : List Char} (lettered : IsLettered host)
    (same : other.map Char.toLower = host.map Char.toLower) (number : IsNumber port)
    (isSuffix : IsSuffix suffix) (count : Nat) :
    let bare := hostname.route (String.ofList host).toUTF8 count
    bare = (if count = 0 then 0
      else (Checksum.crc32Text (String.ofList (host.map Char.toLower))).toNat % count) ∧
    hostname.route (written ("http://".toList ++ (other ++ port)) suffix) count = bare ∧
    hostname.route (written ("https://".toList ++ (other ++ port)) suffix) count = bare ∧
    (¬schemeMark <:+: (Utf8.lossy suffix).toList →
      hostname.route (written (other ++ port) suffix) count = bare) ∧
    (schemeMark <:+: (Utf8.lossy suffix).toList →
      port = [] ∨ Locator.Scheme.named (host.map Char.toLower) ≠ .network →
      hostOf (written (other ++ port) suffix) =
        bareHost (strip isBlank (Utf8.lossy suffix).toList)) := by
  have name := lettered.isName
  have nameOther := name.of_toLower same
  have isBare : hostOf (String.ofList host).toUTF8 = host.map Char.toLower := by
    have isWritten : (String.ofList host).toUTF8 = written (host ++ []) ByteArray.empty := by
      rw [written, List.append_nil, ByteArray.append_empty]
    rw [isWritten]
    exact hostOf_bare name .none (.inl rfl) (by decide)
  have goes : ∀ key, hostOf key = host.map Char.toLower →
      hostname.route key count = hostname.route (String.ofList host).toUTF8 count := by
    intro key isHost
    rw [route_eq isHost, route_eq isBare]
  intro bare
  refine ⟨route_eq isBare count, goes _ ?_, goes _ ?_, fun unmarked => goes _ ?_,
    fun marked notWeb => ?_⟩
  · rw [hostOf_web (.inl rfl) nameOther number isSuffix, same]
  · rw [hostOf_web (.inr rfl) nameOther number isSuffix, same]
  · rw [hostOf_bare nameOther number isSuffix unmarked, same]
  · rw [← same] at notWeb
    exact hostOf_marked nameOther number isSuffix marked notWeb

/-- A path and a query that quotes a locator of another host. -/
def quoting : ByteArray :=
  (String.ofList ['/']).toUTF8 ++ "?u=http://b.example/".toUTF8

/-- A key without a scheme that quotes a locator of another host goes where that other host goes. -/
theorem goes_by_quoted :
    IsLettered "a.example".toList ∧ IsSuffix quoting ∧
      hostOf (written "a.example".toList quoting) = "b.example".toList ∧
      hostname.route (written "a.example".toList quoting) 5 = 4 ∧
      hostname.route "a.example".toUTF8 5 = 2 := by
  have isSuffix : IsSuffix quoting := .inr ⟨'/', "?u=http://b.example/".toUTF8, .inl rfl, rfl⟩
  have quoted : hostOf (written "a.example".toList quoting) = "b.example".toList := by
    decide
  have bare : hostOf "a.example".toUTF8 = "a.example".toList := by decide
  refine ⟨by decide, isSuffix, quoted, ?_, ?_⟩
  · rw [route_eq quoted, Checksum.crc32Text, Checksum.crc32_eq_divide]
    decide
  · rw [route_eq bare, Checksum.crc32Text, Checksum.crc32_eq_divide]
    decide

theorem route_by_host_quoting :
    let host := "a.example".toList
    let other := "A.Example".toList
    let port := ":8080".toList
    IsLettered host ∧ other.map Char.toLower = host.map Char.toLower ∧ IsNumber port ∧
      IsSuffix quoting ∧
      hostname.route (written ("http://".toList ++ (other ++ port)) quoting) 5 =
        hostname.route (String.ofList host).toUTF8 5 ∧
      hostOf (written (other ++ port) quoting) = "b.example".toList := by
  intro host other port
  have lettered : IsLettered host := by decide
  have same : other.map Char.toLower = host.map Char.toLower := by decide
  have number : IsNumber port := .figures (List.all_eq_true.mp rfl)
  have isSuffix : IsSuffix quoting := .inr ⟨'/', "?u=http://b.example/".toUTF8, .inl rfl, rfl⟩
  rcases route_by_host lettered same number isSuffix 5 with ⟨_, web, _, _, quoted⟩
  refine ⟨lettered, same, number, isSuffix, web, ?_⟩
  rw [quoted (by decide) (.inr (by decide))]
  decide

end FrontierBus.Partitioning
