import NetworkThreatEngine.Dissector.RequestLines

/-!
# HTTP requests

A request as a client prints it: one of the supported methods, a URI, any header lines and any body. Its
method, its URI and the value of its first host line are read back.
-/
namespace Nte
open ByteReader ByteReader.Outcome Lines

inductive HttpMethod where
  | get
  | post
  | put
  | delete
  | head
  | options
  | patch
  | connect
  | trace
  deriving DecidableEq, Repr

def HttpMethod.text : HttpMethod → Octets
  | get => ascii "GET"
  | post => ascii "POST"
  | put => ascii "PUT"
  | delete => ascii "DELETE"
  | head => ascii "HEAD"
  | options => ascii "OPTIONS"
  | patch => ascii "PATCH"
  | connect => ascii "CONNECT"
  | trace => ascii "TRACE"

structure HttpRequest where
  method : HttpMethod
  uri : Octets
  minor : UInt8
  headers : List Octets
  body : Octets
  uri_spaceless : 32 ∉ uri
  uri_whole : ¬ crlf <:+: uri
  headers_full : ∀ line ∈ headers, line ≠ []
  headers_whole : ∀ line ∈ headers, ¬ crlf <:+: line

namespace HttpRequest

def version (r : HttpRequest) : Octets := ascii "HTTP/1." ++ [r.minor]

def requestLine (r : HttpRequest) : Octets := r.method.text ++ 32 :: (r.uri ++ 32 :: r.version)

def encode (r : HttpRequest) : Octets :=
  r.requestLine ++ crlf ++ (r.headers.flatMap (· ++ crlf) ++ ([] ++ crlf ++ r.body))

/-- The value of the first host line. -/
def host (r : HttpRequest) : Octets :=
  match r.headers.find? fun line => decide (kHost <+: line) with
  | some line => line.drop kHost.length
  | none => []

end HttpRequest

/-! ## The request line -/

theorem HttpMethod.supported (m : HttpMethod) : m.text ++ [32] ∈ kMethods := by
  cases m <;> decide

theorem HttpMethod.whole (m : HttpMethod) : ¬ crlf <:+: m.text := by
  cases m <;> decide

theorem HttpMethod.long (m : HttpMethod) : 3 ≤ m.text.length := by
  cases m <;> decide

/-- No supported method starts another one. -/
theorem kMethods_apart : ∀ m ∈ kMethods, ∀ m' ∈ kMethods, m <+: m' → m = m' := by decide

theorem methodOf_eq {payload m : Octets} (supported : m ∈ kMethods) (starts : m <+: payload) :
    methodOf payload = some m := by
  cases found : methodOf payload with
  | none =>
      have refused := List.find?_eq_none.mp found m supported
      exact absurd (decide_eq_true starts) refused
  | some m' =>
      rcases List.prefix_or_prefix_of_prefix starts (methodOf_starts found) with shorter | longer
      · rw [kMethods_apart m supported m' (methodOf_mem found) shorter]
      · rw [kMethods_apart m' (methodOf_mem found) m supported longer]

namespace HttpRequest
variable (r : HttpRequest)

theorem requestLine_whole : ¬ crlf <:+: r.requestLine := by
  have single : ¬ crlf <:+: [r.minor] := fun found => absurd found.length_le (by decide : ¬ 2 ≤ 1)
  have version : ¬ crlf <:+: r.version :=
    not_infix_around (c := 46) (by decide) (by decide) (by decide : ¬ crlf <:+: ascii "HTTP/1") single
  have space : (32 : UInt8) ≠ 13 ∧ (32 : UInt8) ≠ 10 := by decide
  exact not_infix_around space.1 space.2 r.method.whole (not_infix_around space.1 space.2 r.uri_whole version)

theorem lines_encode : lines r.encode = r.requestLine :: (r.headers ++ [] :: lines r.body) := by
  rw [encode, lines_ended r.requestLine_whole, lines_block _ r.headers_whole, lines_ended (by decide)]

theorem methodOf_encode : methodOf r.encode = some (r.method.text ++ [32]) := by
  refine methodOf_eq r.method.supported ⟨?_, ?_⟩
  · exact r.uri ++ 32 :: r.version ++ crlf ++ (r.headers.flatMap (· ++ crlf) ++ ([] ++ crlf ++ r.body))
  · simp [encode, requestLine]

theorem uriRead_encode : uriRead r.encode (r.method.text ++ [32]) = r.uri := by
  have split : r.encode = (r.method.text ++ [32]) ++ (r.uri ++ 32 ::
      (r.version ++ crlf ++ (r.headers.flatMap (· ++ crlf) ++ ([] ++ crlf ++ r.body)))) := by
    simp [encode, requestLine]
  have stays : ∀ c ∈ r.uri, (c != 32) = true :=
    fun c mem => bne_iff_ne.mpr fun same => r.uri_spaceless (same ▸ mem)
  rw [uriRead, split, List.drop_left, List.takeWhile_append_of_pos stays]
  simp

theorem long : 16 ≤ r.encode.length := by
  have named := r.method.long
  simp only [encode, requestLine, version, List.length_append, List.length_cons]
  have sizes : (ascii "HTTP/1.").length = 7 ∧ crlf.length = 2 := by decide
  omega

end HttpRequest

/-! ## The header lines -/

/-- The blank line stops the search: what stands behind it is not looked at. -/
theorem hostRead_headers {headers others : List Octets} (full : ∀ line ∈ headers, line ≠ []) :
    hostRead (hostLine (headers ++ [] :: others)) =
      match headers.find? fun line => decide (kHost <+: line) with
      | some line => line.drop kHost.length
      | none => [] := by
  induction headers with
  | nil => rfl
  | cons line headers ih =>
      rw [List.forall_mem_cons] at full
      rw [List.cons_append, List.find?_cons]
      by_cases host : kHost <+: line
      · obtain ⟨next, behind, split⟩ : ∃ next behind, headers ++ [] :: others = next :: behind :=
          List.exists_cons_of_ne_nil (by simp)
        rw [hostLine_host full.1 host, decide_eq_true host, split]
        rfl
      · rw [hostLine_other full.1 host, decide_eq_false host]
        exact ih full.2

/-- Every request is read back: its method, its URI and its host. -/
theorem http_complete (r : HttpRequest) (info : PacketInfo) :
    extractHttp r.encode r.encode.length info =
      .ok { info with
        http := some { method := r.method.text, host := r.host, uri := r.uri }, l7Proto := .HTTP } := by
  have host : hostRead (hostLine (lines r.encode).tail) = r.host := by
    rw [r.lines_encode, List.tail_cons]
    exact hostRead_headers r.headers_full
  have method : (r.method.text ++ [32]).take ((r.method.text ++ [32]).length - 1) = r.method.text := by
    rw [List.length_append, List.length_singleton, Nat.add_sub_cancel, List.take_left]
  rw [extractHttp, decodeHttp_eq, if_neg (Nat.not_lt.mpr r.long), r.methodOf_encode]
  dsimp only
  rw [host, method, r.uriRead_encode]

end Nte
