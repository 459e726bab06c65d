import OpenAppsec.Library.Collections

/-!
# Header arrays of the front ends

A front end puts the headers of a request into an array of a fixed capacity,
less those that it excludes by name, and reports how many there are.
-/

namespace OpenAppsec.FrontEndHeaders

open Collections

/-- One element of the array. -/
structure HttpHeaderData where
  key : String
  value : String
  deriving DecidableEq

/-- What a call writes to the array, and the count that it reports. -/
abbrev HttpHeaders := Collection HttpHeaderData

namespace Envoy

/-- The number of elements that are allocated. -/
def capacity : Nat := 10000

def envoyHeadersPrefix : String := "x-envoy"

def excluded (key : String) : Bool :=
  envoyHeadersPrefix.toList.isPrefixOf key.toList ||
    key == "x-request-id" ||
    key == ":method" ||
    key == ":path" ||
    key == ":scheme" ||
    key == "x-forwarded-proto"

/-- Write an element, wherever it is. -/
def setHeaderElement (index : Nat) (header : HttpHeaderData)
    (places : Nat → Option HttpHeaderData) : Nat → Option HttpHeaderData :=
  fun place => if place = index then some header else places place

/-- The function that the headers are ranged over with. -/
def handleHeader (headers : HttpHeaders) (header : String × String) :
    HttpHeaders :=
  let (key, value) := header
  if 10000 < headers.count then
    headers
  else if excluded key then
    headers
  else
    let key := if key = ":authority" then "Host" else key
    { places := setHeaderElement headers.count { key, value } headers.places
      count := headers.count + 1 }

def handleHeaders (header : List (String × String)) : HttpHeaders :=
  header.foldl handleHeader .empty

/-- The element of a header that is not excluded. -/
def listed (header : String × String) : Option HttpHeaderData :=
  if excluded header.1 then
    none
  else
    some
      { key := if header.1 = ":authority" then "Host" else header.1
        value := header.2 }

end Envoy

namespace Kong

/-- The number of elements that are allocated. -/
def maxHeaders : Nat := 1000

/-- A value of the table of headers. -/
inductive HeaderValue where
  | text (value : String)
  /-- Several values of one header. -/
  | table (values : List String)
  /-- Any other value, as `tostring` writes it. -/
  | other (value : String)

def HeaderValue.headerValue : HeaderValue → String
  | text value => value
  | table values => String.intercalate ", " values
  | other value => value

def excluded (key : String) : Bool :=
  key == "x-request-id" ||
    key == ":method" ||
    key == ":path" ||
    key == ":scheme" ||
    key == "x-forwarded-proto"

variable (malloc : Nat → Bool)

/-- The copy of a string, or the empty string if there is no memory. -/
def fillNanoStr (allocated : Bool) (text : String) : String :=
  if allocated then text else ""

/-- The element that a header leaves; its strings have allocations of their
own. -/
def filled (index : Nat) (header : HttpHeaderData) : HttpHeaderData where
  key := fillNanoStr (malloc (2 * index)) header.key
  value := fillNanoStr (malloc (2 * index + 1)) header.value

/-- Write an element of the array. -/
def setHeaderElement (index : Nat) (header : HttpHeaderData)
    (places : Nat → Option HttpHeaderData) : Nat → Option HttpHeaderData :=
  if maxHeaders ≤ index then
    places
  else
    fun place =>
      if place = index then some (filled malloc index header)
      else places place

/-- The headers in the order of `pairs`, from an index on. -/
def handleHeadersFrom (built : HttpHeaders) :
    List (String × HeaderValue) → HttpHeaders
  | [] => built
  | (key, value) :: headers =>
      if 10000 < built.count then
        built
      else if excluded key then
        handleHeadersFrom built headers
      else
        let key := if key = ":authority" then "Host" else key
        let header := { key, value := value.headerValue }
        handleHeadersFrom
          { places :=
              setHeaderElement malloc built.count header built.places
            count := built.count + 1 } headers

def handleHeaders (headers : List (String × HeaderValue)) : HttpHeaders :=
  handleHeadersFrom malloc .empty headers

/-- The element of a header that is not excluded. -/
def listed (header : String × HeaderValue) : Option HttpHeaderData :=
  if excluded header.1 then
    none
  else
    some
      { key := if header.1 = ":authority" then "Host" else header.1
        value := header.2.headerValue }

end Kong

namespace Envoy

theorem handleHeaders_eq_collect (headers : List (String × String)) :
    handleHeaders headers =
      collect 10000 (fun _ header => some header)
        (headers.filterMap listed) := by
  rw [handleHeaders, collect, List.foldl_filterMap]
  congr 1
  funext built header
  obtain ⟨key, value⟩ := header
  by_cases excludes : excluded key = true
  · simp [handleHeader, listed, excludes]
  · simp only [handleHeader, listed, if_neg excludes, Collection.add,
      Collection.put, Option.some_or]
    rfl

theorem holds_handleHeaders_iff (headers : List (String × String)) :
    Holds capacity (headers.filterMap listed) (handleHeaders headers) ↔
      (headers.filterMap listed).length ≤ capacity := by
  rw [handleHeaders_eq_collect]
  set items := headers.filterMap listed
  have count :=
    @count_collect _ _ 10000 (fun _ header => some header) items
  have places :=
    @places_collect _ _ 10000 (fun _ header => some header) items
  constructor
  · intro holds
    have outside := holds.inside 10000 (Nat.le_refl _)
    rw [places] at outside
    simpa [capacity] using outside
  · intro fits
    simp only [capacity] at fits
    apply Holds.of_places fits
    · intro place
      rw [places]
      by_cases inside : place ≤ 10000
      · simp [inside]
      · have absent : items[place]? = none :=
          List.getElem?_eq_none (by omega)
        simp [absent]
    · rw [count]
      omega

end Envoy

namespace Kong

variable (malloc : Nat → Bool)

/-- What an index leaves in its element, if it has one. -/
def store (index : Nat) (header : HttpHeaderData) : Option HttpHeaderData :=
  if maxHeaders ≤ index then none else some (filled malloc index header)

theorem setHeaderElement_apply (index : Nat) (header : HttpHeaderData)
    (places : Nat → Option HttpHeaderData) (place : Nat) :
    setHeaderElement malloc index header places place =
      if place = index then (store malloc place header).or (places place)
      else places place := by
  rw [setHeaderElement, store]
  split_ifs with past same here here <;> grind

theorem handleHeadersFrom_eq_foldl (built : HttpHeaders)
    (headers : List (String × HeaderValue)) :
    handleHeadersFrom malloc built headers =
      (headers.filterMap listed).foldl
        (Collection.add 10000 (store malloc)) built := by
  induction headers generalizing built with
  | nil => rfl
  | cons header headers induction =>
      obtain ⟨key, value⟩ := header
      by_cases full : 10000 < built.count
      · rw [handleHeadersFrom, if_pos full, foldl_add_of_full full]
      by_cases excludes : excluded key = true
      · have unlisted : listed (key, value) = none := if_pos excludes
        rw [handleHeadersFrom, if_neg full, if_pos excludes,
          List.filterMap_cons_none unlisted]
        exact induction built
      · have element : listed (key, value) = some
            { key := if key = ":authority" then "Host" else key
              value := value.headerValue } :=
          if_neg excludes
        rw [handleHeadersFrom, if_neg full, if_neg excludes,
          List.filterMap_cons_some element, List.foldl_cons,
          Collection.add, if_neg full, Collection.put]
        simp only [← setHeaderElement_apply]
        exact induction _

theorem holds_handleHeaders_iff (headers : List (String × HeaderValue)) :
    Holds maxHeaders (headers.filterMap listed)
        (handleHeaders malloc headers) ↔
      (headers.filterMap listed).length ≤ maxHeaders ∧
        ∀ index header, (headers.filterMap listed)[index]? = some header →
          filled malloc index header = header := by
  rw [handleHeaders, handleHeadersFrom_eq_foldl]
  set items := headers.filterMap listed
  have count := @count_collect _ _ 10000 (store malloc) items
  have places := @places_collect _ _ 10000 (store malloc) items
  rw [collect] at count
  simp only [collect] at places
  constructor
  · intro holds
    have fits : items.length ≤ maxHeaders := by
      by_contra long
      have past := holds.inside maxHeaders (Nat.le_refl _)
      have counted := (holds.counted maxHeaders).mpr (by
        rw [count]
        simp only [maxHeaders] at long ⊢
        omega)
      simp [past] at counted
    refine ⟨fits, ?_⟩
    intro index header found
    obtain ⟨within, -⟩ := List.getElem?_eq_some_iff.mp found
    have inside : index < maxHeaders := by omega
    have held := holds.listed index inside
    have below : index ≤ 10000 := by
      simp only [maxHeaders] at inside
      omega
    rw [places, if_pos below, found, Option.bind_some, store,
      if_neg (Nat.not_le_of_lt inside)] at held
    exact Option.some.inj held
  · rintro ⟨fits, copied⟩
    apply Holds.of_places fits
    · intro place
      rw [places]
      cases found : items[place]? with
      | none => simp
      | some header =>
          obtain ⟨within, -⟩ := List.getElem?_eq_some_iff.mp found
          have inside : ¬maxHeaders ≤ place := by omega
          have below : place ≤ 10000 := by
            simp only [maxHeaders] at inside
            omega
          rw [if_pos below, Option.bind_some, store, if_neg inside,
            copied place header found]
    · simp only [maxHeaders] at fits
      rw [count]
      omega

end Kong

/-- Each front end lists the headers just when its array has room for them:
the guard of the first lets one more through, and that of the second nine
thousand more. -/
theorem header_arrays_hold_iff (malloc : Nat → Bool)
    (envoyHeaders : List (String × String))
    (kongHeaders : List (String × Kong.HeaderValue)) :
    (Holds Envoy.capacity (envoyHeaders.filterMap Envoy.listed)
        (Envoy.handleHeaders envoyHeaders) ↔
      (envoyHeaders.filterMap Envoy.listed).length ≤ Envoy.capacity) ∧
    (Holds Kong.maxHeaders (kongHeaders.filterMap Kong.listed)
        (Kong.handleHeaders malloc kongHeaders) ↔
      (kongHeaders.filterMap Kong.listed).length ≤ Kong.maxHeaders ∧
        ∀ index header,
          (kongHeaders.filterMap Kong.listed)[index]? = some header →
            Kong.filled malloc index header = header) :=
  ⟨Envoy.holds_handleHeaders_iff envoyHeaders,
    Kong.holds_handleHeaders_iff malloc kongHeaders⟩

/-- One header more than there is room for. -/
theorem header_arrays_overrun :
    ¬Holds Envoy.capacity
        ((List.replicate 10001 ("a", "")).filterMap Envoy.listed)
        (Envoy.handleHeaders (List.replicate 10001 ("a", ""))) ∧
      ¬Holds Kong.maxHeaders
        ((List.replicate 1001 ("a", Kong.HeaderValue.text "")).filterMap
          Kong.listed)
        (Kong.handleHeaders (fun _ => true)
          (List.replicate 1001 ("a", Kong.HeaderValue.text ""))) := by
  have envoyListed : Envoy.listed ("a", "") =
      some { key := "a", value := "" } := by
    decide
  have kongListed : Kong.listed ("a", .text "") =
      some { key := "a", value := "" } := by
    decide
  rw [Envoy.holds_handleHeaders_iff, Kong.holds_handleHeaders_iff,
    List.filterMap_replicate_of_some envoyListed,
    List.filterMap_replicate_of_some kongListed, List.length_replicate,
    List.length_replicate]
  constructor
  · exact Nat.not_le_of_lt (Nat.lt_succ_self 10000)
  · rintro ⟨fits, -⟩
    exact absurd fits (Nat.not_le_of_lt (Nat.lt_succ_self 1000))

end OpenAppsec.FrontEndHeaders
