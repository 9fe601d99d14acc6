import NetworkThreatEngine.Dissector.RequestLines

/-!
# HTTP fields and their lines

A URI belongs to the first line and a host to a header line. The scan for the URI's end looks for a space
only, and the one for the host's end does not read the last byte of the payload; here is when the reported
fields are those of their lines nevertheless.
-/
namespace Nte
open ByteReader ByteReader.Outcome Lines

def firstLine (payload : Octets) : Octets := (lines payload).headD []
def headerLines (payload : Octets) : List Octets := (lines payload).tail

/-- The fields hold what stands in their lines. A line that the payload's end cuts counts up to that end. -/
structure FromOwnLines (payload : Octets) (http : HttpInfo) : Prop where
  uri : http.uri = ((firstLine payload).drop (http.method.length + 1)).takeWhile (· != 32)
  host : http.host = [] ∨
    ∃ line behind, hostLine (headerLines payload) = some (line, behind) ∧ http.host = hostValue line

/-- The first line has a second space or is all there is, and the host line is ended if its value has more
than one byte. -/
structure LinesClosed (payload : Octets) : Prop where
  uri : 2 ≤ (firstLine payload).count 32 ∨ headerLines payload = []
  host : ∀ line, hostLine (headerLines payload) = some (line, []) → (hostValue line).length ≤ 1

section Fields
variable {payload line rest m : Octets} {http : HttpInfo}

theorem firstLine_ended (whole : ¬ crlf <:+: line) : firstLine (line ++ crlf ++ rest) = line := by
  rw [firstLine, lines_ended whole]
  rfl

theorem firstLine_open (whole : ¬ crlf <:+: payload) : firstLine payload = payload := by
  rw [firstLine, lines_open whole]
  rfl

theorem headerLines_ended (whole : ¬ crlf <:+: line) : headerLines (line ++ crlf ++ rest) = lines rest := by
  rw [headerLines, lines_ended whole]
  rfl

theorem headerLines_open (whole : ¬ crlf <:+: payload) : headerLines payload = [] := by
  rw [headerLines, lines_open whole]
  rfl

/-- A run of other bytes stops in the line exactly if the line has a space. -/
theorem takeWhile_line_iff :
    (line ++ crlf ++ rest).takeWhile (· != 32) = line.takeWhile (· != 32) ↔ 32 ∈ line := by
  rw [List.append_assoc]
  by_cases space : 32 ∈ line
  · have stops : line.takeWhile (· != 32) ≠ line := by
      intro same
      have none := List.takeWhile_eq_self_iff.mp same 32 space
      exact absurd none (by decide)
    have shorter : (line.takeWhile (· != 32)).length ≠ line.length :=
      fun same => stops ((List.takeWhile_prefix _).eq_of_length same)
    rw [List.takeWhile_append, if_neg shorter]
    exact iff_of_true rfl space
  · have all : ∀ c ∈ line, (c != 32) = true := by
      rintro c mem
      exact bne_iff_ne.mpr fun same => space (same ▸ mem)
    rw [List.takeWhile_append_of_pos all, List.takeWhile_eq_self_iff.mpr all, List.append_right_eq_self]
    exact iff_of_false (List.cons_ne_nil _ _) space

theorem uriRead_iff (found : methodOf payload = some m) :
    uriRead payload m = ((firstLine payload).drop m.length).takeWhile (· != 32) ↔
      2 ≤ (firstLine payload).count 32 ∨ headerLines payload = [] := by
  obtain ⟨-, -, spaces, clean⟩ := kMethods_shape m (methodOf_mem found)
  rcases ended_or_open payload with ⟨line, rest, rfl, whole⟩ | whole
  · obtain ⟨behind, rfl⟩ := (prefix_line clean).mp (methodOf_starts found)
    obtain ⟨first, others, split⟩ := lines_cons_lines rest
    have more : headerLines (m ++ behind ++ crlf ++ rest) ≠ [] := by
      rw [headerLines_ended whole, split]
      exact List.cons_ne_nil _ _
    have second : 2 ≤ (m ++ behind).count 32 ↔ 32 ∈ behind := by
      rw [List.count_append, spaces, ← List.count_pos_iff]
      omega
    rw [uriRead, firstLine_ended whole, List.drop_left, second, or_iff_left more, List.append_assoc, List.append_assoc,
      List.drop_left, ← List.append_assoc]
    exact takeWhile_line_iff
  · rw [firstLine_open whole]
    exact iff_of_true rfl (.inr (headerLines_open whole))

theorem dropLast_eq_self_iff {bytes : Octets} : bytes.dropLast = [] ∨ bytes.dropLast = bytes ↔ bytes.length ≤ 1 := by
  constructor
  · intro same
    have size : bytes.dropLast.length = bytes.length - 1 := List.length_dropLast
    rcases same with empty | all
    · rw [empty, List.length_nil] at size
      omega
    · rw [all] at size
      omega
  · intro short
    refine .inl (List.length_eq_zero_iff.mp ?_)
    rw [List.length_dropLast]
    omega

theorem hostRead_iff (headers : List Octets) :
    (hostRead (hostLine headers) = [] ∨
        ∃ line behind, hostLine headers = some (line, behind) ∧ hostRead (hostLine headers) = hostValue line) ↔
      ∀ line, hostLine headers = some (line, []) → (hostValue line).length ≤ 1 := by
  cases found : hostLine headers with
  | none =>
      refine iff_of_true (.inl rfl) ?_
      rintro line missing
      cases missing
  | some hit =>
      obtain ⟨line, behind⟩ := hit
      cases behind with
      | nil =>
          have only : (∃ line' behind', some (line, ([] : List Octets)) = some (line', behind') ∧
              hostRead (some (line, [])) = hostValue line') ↔ (hostValue line).dropLast = hostValue line := by
            constructor
            · rintro ⟨line', behind', same, read⟩
              cases same
              exact read
            · intro read
              exact ⟨line, [], rfl, read⟩
          rw [only]
          refine dropLast_eq_self_iff.trans ⟨?_, fun short => short line rfl⟩
          rintro short line' same
          cases same
          exact short
      | cons next behind =>
          refine iff_of_true (.inr ⟨line, next :: behind, rfl, rfl⟩) ?_
          rintro line' same
          cases same

end Fields

/-- Both fields are those of their lines exactly if their lines are closed. -/
theorem http_fields_iff (payload : Octets) (info after : PacketInfo) (http : HttpInfo) (unset : info.http = none)
    (extracted : extractHttp payload payload.length info = .ok after) (sets : after.http = some http) :
    FromOwnLines payload http ↔ LinesClosed payload := by
  have decoded := extractHttp_sets unset extracted sets
  rw [decodeHttp_eq] at decoded
  split at decoded
  · cases decoded
  · split at decoded
    · cases decoded
    · rename_i m found
      obtain rfl := Outcome.ok.inj decoded
      have size := (kMethods_shape m (methodOf_mem found)).2.1
      constructor
      · rintro ⟨uri, host⟩
        dsimp only at uri host
        rw [size] at uri
        exact ⟨(uriRead_iff found).mp uri, (hostRead_iff _).mp host⟩
      · rintro ⟨uri, host⟩
        refine ⟨?_, (hostRead_iff _).mpr host⟩
        dsimp only
        rw [size]
        exact (uriRead_iff found).mpr uri

/-! ## Three payloads -/

def plainRequest : Octets :=
  ascii "GET /a HTTP/1.1" ++ crlf ++ ascii "Host: example" ++ crlf ++ crlf

/-- A first line with one space in it. -/
def bareRequest : Octets := ascii "GET /a" ++ crlf ++ ascii "Host: example" ++ crlf ++ crlf

/-- The capture ends in the host's value. -/
def cutRequest : Octets := ascii "GET /a HTTP/1.1" ++ crlf ++ ascii "Host: example"

def exampleHttp : HttpInfo := ⟨ascii "GET", ascii "example", ascii "/a"⟩

theorem http_fields_iff_plain :
    extractHttp plainRequest plainRequest.length {} =
        .ok { ({} : PacketInfo) with http := some exampleHttp, l7Proto := .HTTP } ∧
      (FromOwnLines plainRequest exampleHttp ↔ LinesClosed plainRequest) := by
  have extracted : extractHttp plainRequest plainRequest.length {} =
      .ok { ({} : PacketInfo) with http := some exampleHttp, l7Proto := .HTTP } := by decide +kernel
  exact ⟨extracted, http_fields_iff plainRequest {} _ exampleHttp rfl extracted rfl⟩

def overrunHttp : HttpInfo := { exampleHttp with uri := ascii "/a" ++ crlf ++ ascii "Host:" }
def shortHttp : HttpInfo := { exampleHttp with host := ascii "exampl" }

/-- The URI of the first payload runs into the header line, and the host of the second lacks a byte. -/
theorem fields_leave_lines :
    (extractHttp bareRequest bareRequest.length {} =
        .ok { ({} : PacketInfo) with http := some overrunHttp, l7Proto := .HTTP } ∧
      ¬ FromOwnLines bareRequest overrunHttp) ∧
    (extractHttp cutRequest cutRequest.length {} =
        .ok { ({} : PacketInfo) with http := some shortHttp, l7Proto := .HTTP } ∧
      ¬ FromOwnLines cutRequest shortHttp) := by
  refine ⟨⟨by decide +kernel, fun own => ?_⟩, ⟨by decide +kernel, fun own => ?_⟩⟩
  · exact absurd own.uri (by decide +kernel)
  · have line : hostLine (headerLines cutRequest) = some (ascii "Host: example", []) := by decide +kernel
    rcases own.host with empty | ⟨found, behind, same, read⟩
    · exact absurd empty (by decide)
    · obtain rfl : ascii "Host: example" = found := (Prod.mk.inj (Option.some.inj (line.symm.trans same))).1
      exact absurd read (by decide +kernel)

end Nte
