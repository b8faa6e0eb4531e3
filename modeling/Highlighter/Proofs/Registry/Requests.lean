import Highlighter.Proofs.Registry.Settled

/-!
# Registries in use

A registry is asked for the modes of names, time and again.  What it keeps after some requests it
keeps after further ones, each mode under its own identifier among others.
-/

namespace Highlighter

namespace Registry

/-- What a registry is asked for. -/
inductive Request where
  /-- The mode of a name, or the one that stands for none. -/
  | resolve (name : String)
  /-- The mode of a name, if there is a ruleset for it. -/
  | resolve? (name : String)
  deriving DecidableEq, Repr

/-- The name whose mode is asked for. -/
def Request.name : Request → String
  | resolve name => name
  | resolve? name => name

/-- The registry after a request. -/
def serve (registry : Registry) : Request → Registry
  | .resolve name => (registry.resolve name).2
  | .resolve? name => (registry.resolve? name).2

/-- The registry after requests in order. -/
def serveAll (registry : Registry) (requests : List Request) : Registry :=
  requests.foldl serve registry

/-- Whether an answer is wanted for a name without a ruleset makes no difference to the registry. -/
theorem serve_eq (registry : Registry) (request : Request) :
    registry.serve request = (registry.resolve request.name).2 := by
  cases request <;> rfl

theorem serveAll_append (registry : Registry) (earlier later : List Request) :
    registry.serveAll (earlier ++ later) = (registry.serveAll earlier).serveAll later :=
  List.foldl_append

variable {registry : Registry}

/-- What every resolution of a name asked for keeps is kept by requests in order. -/
theorem serveAll_keeps (holds : Registry → Prop) {requests : List Request}
    (each : ∀ registry, ∀ request ∈ requests, holds registry →
      holds (registry.resolve request.name).2) (before : holds registry) :
    holds (registry.serveAll requests) := by
  refine List.foldlRecOn requests serve before fun registry kept request asked => ?_
  rw [serve_eq]
  exact each registry request asked kept

theorem serveAll_settled (settled : registry.Settled []) (requests : List Request) :
    (registry.serveAll requests).Settled [] :=
  serveAll_keeps (·.Settled []) (fun _ request _ kept => resolve_settled kept request.name) settled

/-- Requests only add modes. -/
theorem serveAll_growsTo (settled : registry.Settled []) (requests : List Request) :
    registry.GrowsTo (registry.serveAll requests) := by
  have both : (registry.serveAll requests).Settled [] ∧
      registry.GrowsTo (registry.serveAll requests) := by
    refine serveAll_keeps (fun later => later.Settled [] ∧ registry.GrowsTo later) ?_
      ⟨settled, .refl registry⟩
    rintro later request - ⟨kept, grows⟩
    exact ⟨resolve_settled kept request.name, grows.trans (resolve_growsTo kept request.name)⟩
  exact both.2

end Registry

end Highlighter
