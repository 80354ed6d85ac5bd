import Microcode.Service.Response

/-!
# Dispatch of requests for a listing

What stands between a request and the handler of listings is the business of a web
framework: it finds the resource, reads the body and sends the reply. A dispatch is such a
framework as far as listings depend on it. Its one law is that a request that arrives is
answered with the handler's reply to what it carries.

`Request.dispatch` is the dispatch of `Request.respond`.
-/

namespace Microcode.Service

/-- A framework that hands requests to the handler of listings. -/
structure Dispatch (Request : Type) where
  /-- Whether a request is one for the handler. -/
  arrives : Request → Prop
  /-- What the handler gets of a request. -/
  carried : Request → Except Json.Container (Option Json.Value)
  /-- Whether a request is answered with a status and a body. -/
  answers : Request → Nat × Json.Value → Prop
  /-- The handler's reply is the answer. -/
  handed : ∀ request, arrives request → answers request (listingReply (carried request))

/-- The dispatch of requests that are posted to the disassembler and reach it. -/
def Request.dispatch : Dispatch Request where
  arrives request := request.verb = "POST".toList ∧ ∃ target, request.resolved = .ok target ∧
    request.destination? target = some (.found .disassembler)
  carried request := Body.value request.headers request.body
  answers request reply := ∃ response, request.respond = .ok response ∧
    response.status = reply.1 ∧ response.content = .json (some reply.2)
  handed := by
    rintro request ⟨posted, target, resolved, destination⟩
    have noOptions : request.verb ≠ "OPTIONS".toList := by
      rw [posted]
      decide
    refine ⟨request.answer target, ?_, ?_⟩
    · rw [Request.respond, resolved, Except.map]
    · rw [Request.answer, destination]
      simp only [Resource.response, if_neg noOptions, and_self]

end Microcode.Service
