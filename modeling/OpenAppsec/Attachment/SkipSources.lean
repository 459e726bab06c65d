import OpenAppsec.Library.BigEndian
import Mathlib.Data.List.TakeWhile

/-!
# Sources that are not inspected

The configuration lists addresses and ranges of addresses, of both families,
whose requests are not inspected.
-/

namespace OpenAppsec.SkipSources

open BigEndian

variable {text : List UInt8}

/-- The bytes of a string of C, none of which is its terminator.  The reader
of the configuration ends each entry at its first terminator too. -/
structure CText where
  text : List UInt8
  unterminated : 0 ∉ text
  deriving DecidableEq

inductive AddressFamily where
  | inet
  | inet6
  deriving DecidableEq

/-- The size of an address. -/
def AddressFamily.size : AddressFamily → Nat
  | inet => 4
  | inet6 => 16

/-- What `inet_pton` stores for a text, if it is an address of the family. -/
abbrev InetPton := AddressFamily → List UInt8 → Option (List UInt8)

def colon : UInt8 := 58
def dash : UInt8 := 45

/-- The addresses that `inet_pton` is documented to take: four decimal numbers
with dots between them, or hexadecimal numbers with colons between them.  It
stores them in network byte order. -/
structure Documented (inetPton : InetPton) : Prop where
  size : ∀ family text bytes, inetPton family text = some bytes →
    bytes.length = family.size
  noColon : ∀ text bytes, inetPton .inet text = some bytes → colon ∉ text
  someColon : ∀ text bytes, inetPton .inet6 text = some bytes → colon ∈ text
  noDash : ∀ family text bytes, inetPton family text = some bytes →
    dash ∉ text

/-- `c_str`: the bytes up to the first terminator. -/
def cStr (text : List UInt8) : List UInt8 :=
  text.takeWhile (· ≠ 0)

variable (inetPton : InetPton)

def isIPAddress (ipStr : List UInt8) : Int :=
  let addressFamily :=
    if ipStr.contains colon then AddressFamily.inet6 else .inet
  if (inetPton addressFamily ipStr).isSome then 1 else 0

structure IpAddress where
  ip : List UInt8
  isIpv4 : Bool

/-- `operator<` -/
def IpAddress.less (address other : IpAddress) : Bool :=
  if address.isIpv4 ≠ other.isIpv4 then
    !address.isIpv4 && other.isIpv4
  else if address.isIpv4 then
    memcmp 4 address.ip other.ip < 0
  else
    memcmp 16 address.ip other.ip < 0

/-- `operator<=` -/
def IpAddress.lessOrEqual (address other : IpAddress) : Bool :=
  !other.less address

/-- The address of a text; bytes that are not set are zeros here. -/
def createIPAddress (ipStr : List UInt8) : IpAddress :=
  if ipStr.contains colon then
    { isIpv4 := false
      ip := (inetPton .inet6 ipStr).getD (List.replicate 16 0) }
  else
    { isIpv4 := true
      ip := (inetPton .inet ipStr).getD (List.replicate 4 0) }

/-- `isIPInRange` between two addresses. -/
def isIPInBounds (ip start stop : IpAddress) : Bool :=
  if ip.isIpv4 ≠ start.isIpv4 ∨ ip.isIpv4 ≠ stop.isIpv4 then
    false
  else
    start.lessOrEqual ip && ip.lessOrEqual stop

def isIPInRange (ip : IpAddress) (range : List UInt8) : Bool :=
  match range.idxOf? dash with
  | none =>
      if isIPAddress inetPton (cStr range) = 0 then
        false
      else
        let address := createIPAddress inetPton (cStr range)
        isIPInBounds ip address address
  | some delimiter =>
      let startStr := range.take delimiter
      if isIPAddress inetPton (cStr startStr) = 0 then
        false
      else
        let startAddr := createIPAddress inetPton (cStr startStr)
        let endStr := range.drop (delimiter + 1)
        if isIPAddress inetPton (cStr endStr) = 0 then
          false
        else
          let endAddr := createIPAddress inetPton (cStr endStr)
          isIPInBounds ip startAddr endAddr

def isSkipSource (excludeSources : List (List UInt8)) (ipStr : List UInt8) :
    Int :=
  if isIPAddress inetPton ipStr = 0 then
    0
  else
    let ip := createIPAddress inetPton ipStr
    if excludeSources.any (isIPInRange inetPton ip) then 1 else 0

/-- The function of the nano attachment. -/
def Nano.isSkipSource (excludeSources : List (List UInt8))
    (ipStr : List UInt8) : Int :=
  SkipSources.isSkipSource inetPton excludeSources ipStr

/-- The function of the nginx module. -/
def Nginx.isSkipSource (excludeSources : List (List UInt8))
    (ipStr : List UInt8) : Int :=
  SkipSources.isSkipSource inetPton excludeSources ipStr

/-- An address of a family, as a number. -/
structure Address where
  family : AddressFamily
  number : Nat
  deriving DecidableEq

/-- The text is the address. -/
def Parses (text : List UInt8) (address : Address) : Prop :=
  ∃ bytes, inetPton address.family text = some bytes ∧
    value bytes = address.number

/-- The entry is the address, or a range of its family that contains it. -/
inductive Covers (entry : List UInt8) (address : Address) : Prop where
  | single (parses : Parses inetPton entry address)
  | range (first last : List UInt8) (start stop : Nat)
      (split : entry = first ++ dash :: last)
      (startParses : Parses inetPton first ⟨address.family, start⟩)
      (stopParses : Parses inetPton last ⟨address.family, stop⟩)
      (above : start ≤ address.number)
      (below : address.number ≤ stop)

variable {ip : IpAddress}

namespace IpAddress

def family (ip : IpAddress) : AddressFamily :=
  if ip.isIpv4 then .inet else .inet6

def toAddress (ip : IpAddress) : Address where
  family := ip.family
  number := value ip.ip

/-- As many bytes as the family has. -/
def Sized (ip : IpAddress) : Prop :=
  ip.ip.length = ip.family.size

variable {other : IpAddress}

theorem family_eq_iff :
    ip.family = other.family ↔ ip.isIpv4 = other.isIpv4 := by
  cases isIpv4 : ip.isIpv4 <;> cases otherIpv4 : other.isIpv4 <;>
    simp [family, isIpv4, otherIpv4]

theorem less_iff (sized : ip.Sized) (otherSized : other.Sized)
    (same : ip.family = other.family) :
    ip.less other = true ↔ ip.toAddress.number < other.toAddress.number := by
  have sameFlag := family_eq_iff.mp same
  rw [Sized] at sized otherSized
  rw [← same] at otherSized
  cases isIpv4 : ip.isIpv4 with
  | true =>
      have size : ip.family.size = 4 := by
        simp [family, isIpv4, AddressFamily.size]
      rw [size] at sized otherSized
      simp [less, ← sameFlag, isIpv4, memcmp_neg_iff sized otherSized,
        toAddress]
  | false =>
      have size : ip.family.size = 16 := by
        simp [family, isIpv4, AddressFamily.size]
      rw [size] at sized otherSized
      simp [less, ← sameFlag, isIpv4, memcmp_neg_iff sized otherSized,
        toAddress]

theorem lessOrEqual_iff (sized : ip.Sized) (otherSized : other.Sized)
    (same : ip.family = other.family) :
    ip.lessOrEqual other = true ↔
      ip.toAddress.number ≤ other.toAddress.number := by
  rw [lessOrEqual, Bool.not_eq_true', ← Bool.not_eq_true,
    less_iff otherSized sized same.symm, Nat.not_lt]

end IpAddress

theorem isIPInBounds_iff {start stop : IpAddress} (sized : ip.Sized)
    (startSized : start.Sized) (stopSized : stop.Sized) :
    isIPInBounds ip start stop = true ↔
      start.family = ip.family ∧ stop.family = ip.family ∧
        start.toAddress.number ≤ ip.toAddress.number ∧
        ip.toAddress.number ≤ stop.toAddress.number := by
  by_cases families : start.family = ip.family ∧ stop.family = ip.family
  · obtain ⟨startSame, stopSame⟩ := families
    have startFlag := IpAddress.family_eq_iff.mp startSame
    have stopFlag := IpAddress.family_eq_iff.mp stopSame
    simp [isIPInBounds, startFlag, stopFlag, startSame, stopSame,
      IpAddress.lessOrEqual_iff startSized sized startSame,
      IpAddress.lessOrEqual_iff sized stopSized stopSame.symm]
  · have flags : ip.isIpv4 ≠ start.isIpv4 ∨ ip.isIpv4 ≠ stop.isIpv4 := by
      simp only [IpAddress.family_eq_iff] at families
      by_contra same
      simp only [not_or, not_not] at same
      exact families ⟨same.1.symm, same.2.symm⟩
    have refused : isIPInBounds ip start stop = false := by
      rw [isIPInBounds, if_pos flags]
    refine iff_of_false (by simp [refused]) ?_
    rintro ⟨startSame, stopSame, -⟩
    exact families ⟨startSame, stopSame⟩

theorem cStr_eq (unterminated : 0 ∉ text) :
    cStr text = text := by
  rw [cStr, List.takeWhile_eq_self_iff]
  intro byte member
  have nonzero : byte ≠ 0 := by
    rintro rfl
    exact unterminated member
  simpa using nonzero

theorem split_unique {first other last rest : List UInt8}
    (noDash : dash ∉ first) (otherNoDash : dash ∉ other)
    (same : first ++ dash :: last = other ++ dash :: rest) :
    first = other ∧ last = rest := by
  induction first generalizing other with
  | nil =>
      cases other with
      | nil => exact ⟨rfl, List.tail_eq_of_cons_eq same⟩
      | cons byte other =>
          obtain rfl := List.head_eq_of_cons_eq same
          exact absurd List.mem_cons_self otherNoDash
  | cons byte first induction =>
      cases other with
      | nil =>
          obtain rfl := List.head_eq_of_cons_eq same
          exact absurd List.mem_cons_self noDash
      | cons byte' other =>
          obtain rfl := List.head_eq_of_cons_eq same
          obtain ⟨rfl, rfl⟩ := induction
            (List.not_mem_of_not_mem_cons noDash)
            (List.not_mem_of_not_mem_cons otherNoDash)
            (List.tail_eq_of_cons_eq same)
          exact ⟨rfl, rfl⟩

variable {inetPton} (documented : Documented inetPton)

theorem createIPAddress_ip (text : List UInt8) :
    (createIPAddress inetPton text).ip =
      (inetPton (createIPAddress inetPton text).family text).getD
        (List.replicate (createIPAddress inetPton text).family.size 0) := by
  rw [createIPAddress]
  split_ifs <;> rfl

include documented

/-- A text is an address of the family that the code tries, or of none. -/
theorem parses_iff {address : Address} :
    Parses inetPton text address ↔
      isIPAddress inetPton text ≠ 0 ∧
        (createIPAddress inetPton text).toAddress = address := by
  obtain ⟨family, number⟩ := address
  by_cases hasColon : colon ∈ text
  · have contains : text.contains colon = true := by
      simpa using hasColon
    have noInet : inetPton .inet text = none := by
      cases parsed : inetPton .inet text with
      | none => rfl
      | some bytes => exact absurd hasColon (documented.noColon _ _ parsed)
    cases family with
    | inet => simp [Parses, noInet, createIPAddress, hasColon,
        IpAddress.toAddress, IpAddress.family]
    | inet6 =>
        cases parsed : inetPton .inet6 text with
        | none => simp [Parses, parsed, isIPAddress, hasColon]
        | some bytes =>
            simp [Parses, parsed, isIPAddress, hasColon, createIPAddress,
              IpAddress.toAddress, IpAddress.family]
  · have noInet6 : inetPton .inet6 text = none := by
      cases parsed : inetPton .inet6 text with
      | none => rfl
      | some bytes => exact absurd (documented.someColon _ _ parsed) hasColon
    cases family with
    | inet6 => simp [Parses, noInet6, createIPAddress, hasColon,
        IpAddress.toAddress, IpAddress.family]
    | inet =>
        cases parsed : inetPton .inet text with
        | none => simp [Parses, parsed, isIPAddress, hasColon]
        | some bytes =>
            simp [Parses, parsed, isIPAddress, hasColon, createIPAddress,
              IpAddress.toAddress, IpAddress.family]

theorem sized_createIPAddress (valid : isIPAddress inetPton text ≠ 0) :
    (createIPAddress inetPton text).Sized := by
  obtain ⟨bytes, parsed, -⟩ := (parses_iff documented).mpr ⟨valid, rfl⟩
  simp only [IpAddress.toAddress] at parsed
  rw [IpAddress.Sized, createIPAddress_ip, parsed]
  exact documented.size _ _ _ parsed

theorem parses_toAddress_iff {family : AddressFamily} {number : Nat} :
    Parses inetPton text ⟨family, number⟩ ↔
      isIPAddress inetPton text ≠ 0 ∧
        (createIPAddress inetPton text).family = family ∧
        (createIPAddress inetPton text).toAddress.number = number := by
  rw [parses_iff documented]
  simp [IpAddress.toAddress]

theorem isIPInRange_single (sized : ip.Sized) {range : List UInt8}
    (unterminated : 0 ∉ range) (noDash : dash ∉ range) :
    isIPInRange inetPton ip range = true ↔
      Parses inetPton range ip.toAddress := by
  have absent : range.idxOf? dash = none :=
    List.idxOf?_eq_none_iff.mpr noDash
  simp only [isIPInRange, absent, cStr_eq unterminated,
    IpAddress.toAddress, parses_toAddress_iff documented]
  by_cases valid : isIPAddress inetPton range = 0
  · simp [valid]
  · have rangeSized := sized_createIPAddress documented valid
    rw [if_neg valid, isIPInBounds_iff sized rangeSized rangeSized]
    simp only [IpAddress.toAddress]
    constructor
    · rintro ⟨same, -, above, below⟩
      exact ⟨valid, same, Nat.le_antisymm above below⟩
    · rintro ⟨-, same, equal⟩
      exact ⟨same, same, equal.le, equal.ge⟩

/-- An entry with a dash, split at the first one. -/
theorem isIPInRange_range (sized : ip.Sized) {first last : List UInt8}
    (unterminated : 0 ∉ first ++ dash :: last) (noDash : dash ∉ first) :
    isIPInRange inetPton ip (first ++ dash :: last) = true ↔
      ∃ start stop, Parses inetPton first ⟨ip.family, start⟩ ∧
        Parses inetPton last ⟨ip.family, stop⟩ ∧
        start ≤ ip.toAddress.number ∧ ip.toAddress.number ≤ stop := by
  have firstUnterminated : 0 ∉ first := by
    intro member
    exact unterminated (List.mem_append_left _ member)
  have lastUnterminated : 0 ∉ last := by
    intro member
    exact unterminated (List.mem_append_right _ (List.mem_cons_of_mem _ member))
  have delimiter : (first ++ dash :: last).idxOf? dash =
      some first.length := by
    rw [List.idxOf?_eq_some_iff]
    refine ⟨by simp, by simp, ?_⟩
    intro place before same
    rw [List.getElem_append_left before] at same
    exact noDash (same ▸ List.getElem_mem before)
  have startStr : (first ++ dash :: last).take first.length = first :=
    List.take_left
  have endStr : (first ++ dash :: last).drop (first.length + 1) = last := by
    simp
  simp only [isIPInRange, delimiter, startStr, endStr,
    cStr_eq firstUnterminated, cStr_eq lastUnterminated,
    parses_toAddress_iff documented]
  by_cases startValid : isIPAddress inetPton first = 0
  · simp [startValid]
  by_cases stopValid : isIPAddress inetPton last = 0
  · simp [startValid, stopValid]
  rw [if_neg startValid, if_neg stopValid,
    isIPInBounds_iff sized (sized_createIPAddress documented startValid)
      (sized_createIPAddress documented stopValid)]
  constructor
  · rintro ⟨startSame, stopSame, above, below⟩
    exact ⟨_, _, ⟨startValid, startSame, rfl⟩, ⟨stopValid, stopSame, rfl⟩,
      above, below⟩
  · rintro ⟨start, stop, ⟨-, startSame, rfl⟩, ⟨-, stopSame, rfl⟩, above, below⟩
    exact ⟨startSame, stopSame, above, below⟩

theorem isIPInRange_iff (sized : ip.Sized) {range : List UInt8}
    (unterminated : 0 ∉ range) :
    isIPInRange inetPton ip range = true ↔
      Covers inetPton range ip.toAddress := by
  by_cases hasDash : dash ∈ range
  · obtain ⟨first, last, noDash, rfl⟩ :
        ∃ first last, dash ∉ first ∧ range = first ++ dash :: last := by
      obtain ⟨first, last, split, noDash⟩ := List.eq_append_cons_of_mem hasDash
      exact ⟨first, last, noDash, split⟩
    rw [isIPInRange_range documented sized unterminated noDash]
    constructor
    · rintro ⟨start, stop, startParses, stopParses, above, below⟩
      exact .range first last start stop rfl startParses stopParses above below
    · intro covers
      cases covers with
      | single parses =>
          obtain ⟨bytes, parsed, -⟩ := parses
          exact absurd hasDash (documented.noDash _ _ _ parsed)
      | range other rest start stop split startParses stopParses above below =>
          obtain ⟨bytes, parsed, -⟩ := id startParses
          have otherNoDash := documented.noDash _ _ _ parsed
          obtain ⟨rfl, rfl⟩ := split_unique noDash otherNoDash split
          exact ⟨start, stop, startParses, stopParses, above, below⟩
  · rw [isIPInRange_single documented sized unterminated hasDash]
    constructor
    · exact .single
    · intro covers
      cases covers with
      | single parses => exact parses
      | range first last start stop split _ _ _ _ =>
          rw [split] at hasDash
          exact absurd (by simp) hasDash

theorem isSkipSource_iff (excludeSources : List CText) (source : CText) :
    isSkipSource inetPton (excludeSources.map CText.text) source.text = 1 ↔
      ∃ address, Parses inetPton source.text address ∧
        ∃ entry ∈ excludeSources, Covers inetPton entry.text address := by
  simp only [parses_iff documented, isSkipSource]
  by_cases valid : isIPAddress inetPton source.text = 0
  · simp [valid]
  have sized := sized_createIPAddress documented valid
  have covered : (excludeSources.map CText.text).any
      (isIPInRange inetPton (createIPAddress inetPton source.text)) = true ↔
      ∃ entry ∈ excludeSources, Covers inetPton entry.text
        (createIPAddress inetPton source.text).toAddress := by
    rw [List.any_map, List.any_eq_true]
    apply exists_congr
    intro entry
    apply and_congr_right
    intro _
    exact isIPInRange_iff documented sized entry.unterminated
  rw [if_neg valid]
  constructor
  · intro skipped
    split_ifs at skipped with any
    · exact ⟨_, ⟨valid, rfl⟩, covered.mp any⟩
    · exact absurd skipped (by decide)
  · rintro ⟨_, ⟨-, rfl⟩, entries⟩
    rw [if_pos (covered.mpr entries)]

/-- Both attachments skip just the addresses that an entry covers. -/
theorem skip_sources_exact (excludeSources : List CText) (source : CText) :
    (Nano.isSkipSource inetPton (excludeSources.map CText.text)
        source.text = 1 ↔
      ∃ address, Parses inetPton source.text address ∧
        ∃ entry ∈ excludeSources, Covers inetPton entry.text address) ∧
    Nginx.isSkipSource inetPton (excludeSources.map CText.text) source.text =
      Nano.isSkipSource inetPton (excludeSources.map CText.text)
        source.text :=
  ⟨isSkipSource_iff documented excludeSources source, rfl⟩

omit documented

/-- `"1.2.3."` and a digit. -/
def smallAddress (digit : UInt8) : List UInt8 :=
  [49, 46, 50, 46, 51, 46, 48 + digit]

/-- `inet_pton` for `"1.2.3.0"`, `"1.2.3.4"`, `"1.2.3.9"` and `"::1"`. -/
def smallInetPton : InetPton
  | .inet, text =>
      if text = smallAddress 0 then some [1, 2, 3, 0]
      else if text = smallAddress 4 then some [1, 2, 3, 4]
      else if text = smallAddress 9 then some [1, 2, 3, 9]
      else none
  | .inet6, text =>
      if text = [58, 58, 49] then some (List.replicate 15 0 ++ [1]) else none

theorem documented_smallInetPton : Documented smallInetPton where
  size := by
    intro family text bytes parsed
    cases family <;> simp only [smallInetPton] at parsed <;>
      split_ifs at parsed <;> obtain rfl := Option.some.inj parsed <;> rfl
  noColon := by
    intro text bytes parsed
    simp only [smallInetPton] at parsed
    split_ifs at parsed with first second third
    · rw [first]
      decide
    · rw [second]
      decide
    · rw [third]
      decide
  someColon := by
    intro text bytes parsed
    simp only [smallInetPton] at parsed
    split_ifs at parsed with only
    rw [only]
    decide
  noDash := by
    intro family text bytes parsed
    cases family with
    | inet =>
        simp only [smallInetPton] at parsed
        split_ifs at parsed with first second third
        · rw [first]
          decide
        · rw [second]
          decide
        · rw [third]
          decide
    | inet6 =>
        simp only [smallInetPton] at parsed
        split_ifs at parsed with only
        rw [only]
        decide

/-- After a malformed entry, the range `1.2.3.0-1.2.3.9`. -/
def smallSources : List CText :=
  [{ text := [45, 45], unterminated := by decide },
    { text := smallAddress 0 ++ dash :: smallAddress 9
      unterminated := by decide }]

theorem skip_sources_small :
    Nano.isSkipSource smallInetPton (smallSources.map CText.text)
        (smallAddress 4) = 1 ∧
      Nginx.isSkipSource smallInetPton (smallSources.map CText.text)
        (smallAddress 4) = 1 := by
  have exact := skip_sources_exact documented_smallInetPton smallSources
    { text := smallAddress 4, unterminated := by decide }
  have skipped : Nano.isSkipSource smallInetPton
      (smallSources.map CText.text) (smallAddress 4) = 1 := by
    apply exact.1.mpr
    refine ⟨⟨.inet, 16909060⟩, ⟨[1, 2, 3, 4], by decide, by decide⟩, ?_⟩
    refine ⟨smallSources[1], by decide, ?_⟩
    exact .range (smallAddress 0) (smallAddress 9) 16909056 16909065 rfl
      ⟨[1, 2, 3, 0], by decide, by decide⟩
      ⟨[1, 2, 3, 9], by decide, by decide⟩ (by decide) (by decide)
  exact ⟨skipped, exact.2.trans skipped⟩

end OpenAppsec.SkipSources
