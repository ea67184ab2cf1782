import FrontierBus.Partitioning
import FrontierBus.Proofs.Routing.Checksums
import Mathlib.Data.List.Forall2

/-!
# Routing by fingerprint

A fingerprint is a digest written in hexadecimal figures, and goes by four octets of the digest, in
whatever case it is written. Any other key should go by its checksum. But only the figures of the
four octets are looked at, so a key that has figures in their places is taken for a fingerprint,
whatever stands in the others.
-/

namespace FrontierBus.Partitioning

/-- An octet is the figure with a value, in lower or in upper case. -/
def IsFigure (value : Nat) (octet : UInt8) : Prop :=
  "0123456789abcdef".toList[value]? = some (Char.ofNat octet.toNat) ∨
    "0123456789ABCDEF".toList[value]? = some (Char.ofNat octet.toNat)

instance (value : Nat) (octet : UInt8) : Decidable (IsFigure value octet) :=
  inferInstanceAs (Decidable (_ ∨ _))

/-- A key is a digest, given by the values of its figures, and nothing else. -/
def Spells (figures : List Nat) (key : ByteArray) : Prop :=
  List.Forall₂ IsFigure figures key.data.toList

/-- A key is a digest that is long enough to be sampled. -/
def IsFingerprint (key : ByteArray) : Prop :=
  ∃ figures, Spells figures key ∧ 17 ≤ figures.length

/-- The places at which a key is looked at. -/
def sampledPlaces : List Nat := [0, 1, 5, 6, 10, 11, 15, 16]

/-- A key has the figures of a digest at the places at which it is looked at. -/
def Resembles (figures : List Nat) (key : ByteArray) : Prop :=
  17 ≤ key.size ∧ ∀ place ∈ sampledPlaces, IsFigure (figures.getD place 0) (key.data.getD place 0)

/-- The octet of a digest whose figures begin at a place. -/
def octetAt (figures : List Nat) (place : Nat) : Nat :=
  16 * figures.getD place 0 + figures.getD (place + 1) 0

/-- The number that four octets of a digest make up, the first being the least. -/
def sampleOf (figures : List Nat) : Nat :=
  octetAt figures 0 + 0x100 * octetAt figures 5 + 0x10000 * octetAt figures 10 +
    0x1000000 * octetAt figures 15

variable {figures : List Nat} {key : ByteArray} {octet : UInt8}
  {value high low place count : Nat}

/-- What holds of each octet by its number holds of any. -/
theorem forall_octet (holds : UInt8 → Prop) (each : ∀ code < 256, holds (UInt8.ofNat code))
    (octet : UInt8) : holds octet := by
  have found := each octet.toNat octet.toNat_lt
  simpa using found

section Figures

theorem IsFigure.lt (isFigure : IsFigure value octet) : value < 16 := by
  rcases isFigure with lower | upper
  · exact (List.getElem?_eq_some_iff.mp lower).1
  · exact (List.getElem?_eq_some_iff.mp upper).1

/-- If the figures are read one after the other as what their places count, each is read so. -/
theorem figureValue_of_getElem? {figures : List Char} {figure : Char}
    (inOrder : figures.map Host.Ipv4.figureValue = (List.range 16).map some)
    (isThere : figures[value]? = some figure) : Host.Ipv4.figureValue figure = some value := by
  have readThere := congrArg (·[value]?) inOrder
  simp only [List.getElem?_map, isThere, Option.map_some] at readThere
  rcases Option.map_eq_some_iff.mp readThere.symm with ⟨place, placed, isRead⟩
  rcases List.getElem?_eq_some_iff.mp placed with ⟨_, rfl⟩
  simpa using isRead.symm

/-- A figure is read as its value, in either case. -/
theorem figure?_eq_some_iff : figure? octet = some value ↔ IsFigure value octet := by
  constructor
  · apply forall_octet (fun octet => ∀ found ∈ figure? octet, IsFigure found octet) _ octet value
    decide +kernel
  · rintro (lower | upper)
    · exact figureValue_of_getElem? (by decide) lower
    · exact figureValue_of_getElem? (by decide) upper

end Figures

section Sampling

theorem lt_of_mem_sampledPlaces : ∀ place ∈ sampledPlaces, place < 17 := by
  decide

theorem sampleAt_eq (isHigh : IsFigure high (key.data.getD place 0))
    (isLow : IsFigure low (key.data.getD (place + 1) 0)) :
    sampleAt key place = some (16 * high + low) := by
  simp only [sampleAt, figure?_eq_some_iff.mpr isHigh, figure?_eq_some_iff.mpr isLow]
  rfl

theorem exists_figures_of_sampleAt (isRead : sampleAt key place = some value) :
    (∃ high, IsFigure high (key.data.getD place 0)) ∧
      ∃ low, IsFigure low (key.data.getD (place + 1) 0) := by
  simp only [sampleAt, Option.bind_eq_bind, Option.bind_eq_some_iff] at isRead
  rcases isRead with ⟨high, isHigh, low, isLow, _⟩
  exact ⟨⟨high, figure?_eq_some_iff.mp isHigh⟩, ⟨low, figure?_eq_some_iff.mp isLow⟩⟩

/-- The figures at the sampled places are all that counts. -/
theorem sampled_of_resembles (resembles : Resembles figures key) :
    sampled key = some (sampleOf figures) := by
  rcases resembles with ⟨long, alike⟩
  simp only [sampledPlaces, List.forall_mem_cons] at alike
  rcases alike with ⟨at0, at1, at5, at6, at10, at11, at15, at16, _⟩
  simp only [sampled, if_pos long, sampleAt_eq at0 at1, sampleAt_eq at5 at6, sampleAt_eq at10 at11,
    sampleAt_eq at15 at16, sampleOf, octetAt, Option.bind_eq_bind, Option.bind_some,
    Option.pure_def, Option.some.injEq, Nat.reduceAdd]
  omega

/-- A key is sampled only if there is a figure at every sampled place. The other places are not
looked at, so any figures will do for them. -/
theorem resembles_of_sampled (isSampled : sampled key = some value) :
    ∃ figures, Resembles figures key := by
  have places : 17 ≤ key.size ∧
      ∀ place ∈ sampledPlaces, ∃ value, IsFigure value (key.data.getD place 0) := by
    simp only [sampled] at isSampled
    split at isSampled
    · rename_i long
      simp only [Option.bind_eq_bind, Option.bind_eq_some_iff] at isSampled
      rcases isSampled with ⟨_, at0, _, at5, _, at10, _, at15, _⟩
      simp only [sampledPlaces, List.forall_mem_cons]
      exact ⟨long, (exists_figures_of_sampleAt at0).1, (exists_figures_of_sampleAt at0).2,
        (exists_figures_of_sampleAt at5).1, (exists_figures_of_sampleAt at5).2,
        (exists_figures_of_sampleAt at10).1, (exists_figures_of_sampleAt at10).2,
        (exists_figures_of_sampleAt at15).1, (exists_figures_of_sampleAt at15).2, by simp⟩
    · cases isSampled
  rcases places with ⟨long, present⟩
  refine ⟨(List.range 17).map fun place => (figure? (key.data.getD place 0)).getD 0, long, ?_⟩
  intro place isPlace
  rcases present place isPlace with ⟨value, isFigure⟩
  have inside := lt_of_mem_sampledPlaces place isPlace
  simp only [List.getD_eq_getElem?_getD, List.getElem?_map, List.getElem?_range inside,
    Option.map_some, Option.getD_some, figure?_eq_some_iff.mpr isFigure]
  exact isFigure

theorem Spells.isFigure (spells : Spells figures key) (inside : place < figures.length) :
    IsFigure (figures.getD place 0) (key.data.getD place 0) := by
  have sameLength : figures.length = key.size := by
    simpa using List.Forall₂.length_eq spells
  have inKey : place < key.size := by omega
  have isFigure := (List.forall₂_iff_get.mp spells).2 place inside (by simpa using inKey)
  simpa [List.getD, Array.getD, inKey, inside] using isFigure

theorem Spells.resembles (spells : Spells figures key) (long : 17 ≤ figures.length) :
    Resembles figures key := by
  have sameLength : figures.length = key.size := by
    simpa using List.Forall₂.length_eq spells
  refine ⟨by omega, ?_⟩
  intro place isPlace
  have inside := lt_of_mem_sampledPlaces place isPlace
  exact spells.isFigure (by omega)

end Sampling

theorem route_of_resembles (resembles : Resembles figures key) (positive : 0 < count) :
    fingerprint.route key count = sampleOf figures % count := by
  simp only [route, if_neg (Nat.ne_of_gt positive), hash, sampled_of_resembles resembles,
    Option.getD_some]

theorem route_of_not_resembles (different : ∀ figures, ¬Resembles figures key)
    (positive : 0 < count) :
    fingerprint.route key count = (Checksum.crc32 key).toNat % count := by
  have notSampled : sampled key = none := by
    cases isSampled : sampled key with
    | none => rfl
    | some value =>
        rcases resembles_of_sampled isSampled with ⟨figures, resembles⟩
        exact absurd resembles (different figures)
  simp only [route, if_neg (Nat.ne_of_gt positive), hash, notSampled, Option.getD_none]

/-- A fingerprint goes by four octets of its digest, in whatever case it is written. Any other key
goes by its checksum, unless there is a figure at every sampled place; then it goes by these. -/
theorem route_by_fingerprint (key : ByteArray) (positive : 0 < count) :
    let index := fingerprint.route key count
    (∀ figures, Spells figures key → 17 ≤ figures.length →
      index = sampleOf figures % count ∧
        ∀ other, Spells figures other → fingerprint.route other count = index) ∧
    ((∀ figures, ¬Resembles figures key) → index = (Checksum.crc32 key).toNat % count) ∧
    ∀ figures, Resembles figures key → index = sampleOf figures % count := by
  intro index
  refine ⟨?_, ?_, ?_⟩
  · intro figures spells long
    have isIndex : index = sampleOf figures % count :=
      route_of_resembles (spells.resembles long) positive
    refine ⟨isIndex, ?_⟩
    intro other alike
    exact (route_of_resembles (alike.resembles long) positive).trans isIndex.symm
  · intro different
    exact route_of_not_resembles different positive
  · intro figures resembles
    exact route_of_resembles resembles positive

/-- A digest written in groups. -/
def grouped : ByteArray := "123e4567-e89b-12d3-a456-426614174000".toUTF8

/-- A digest in groups is no fingerprint, but it has figures at the sampled places and goes by them
instead of its checksum. -/
theorem goes_by_sample_grouped :
    ¬IsFingerprint grouped ∧ fingerprint.route grouped 5 = 1 ∧
      (Checksum.crc32 grouped).toNat % 5 = 0 := by
  refine ⟨?_, by decide, ?_⟩
  · rintro ⟨figures, spells, long⟩
    have noFigure : ∀ value < 16, ¬IsFigure value (grouped.data.getD 8 0) := by decide
    have isFigure := spells.isFigure (show 8 < figures.length by omega)
    exact noFigure _ isFigure.lt isFigure
  · rw [Checksum.crc32_eq_divide]
    decide +kernel

theorem route_by_fingerprint_mixedCase :
    let figures := [0, 1, 2, 3, 4, 5, 6, 7, 8, 9, 10, 11, 12, 13, 14, 15, 10]
    0 < 5 ∧ 17 ≤ figures.length ∧ Spells figures "0123456789abcdefa".toUTF8 ∧
      Spells figures "0123456789ABCdefA".toUTF8 ∧
      fingerprint.route "0123456789ABCdefA".toUTF8 5 = sampleOf figures % 5 ∧
      fingerprint.route "0123456789abcdefa".toUTF8 5 =
        fingerprint.route "0123456789ABCdefA".toUTF8 5 := by
  intro figures
  have lower : Spells figures "0123456789abcdefa".toUTF8 := by
    unfold Spells
    decide
  have mixed : Spells figures "0123456789ABCdefA".toUTF8 := by
    unfold Spells
    decide
  have long : 17 ≤ figures.length := by decide
  rcases route_by_fingerprint "0123456789ABCdefA".toUTF8 (show 0 < 5 by decide) with ⟨spelled, _⟩
  rcases spelled figures mixed long with ⟨isIndex, alike⟩
  exact ⟨by decide, long, lower, mixed, isIndex, alike _ lower⟩

end FrontierBus.Partitioning
