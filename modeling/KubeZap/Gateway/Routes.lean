import KubeZap.Api.Trigger
import Mathlib.Data.List.DropRight
import Mathlib.Logic.Function.Basic

/-! # Route registry of the webhook gateway

`registry.go`: the entry of a route, the path under which it is kept, and the
registry itself. The key of the registry is the normalised path; neither the
caller nor the Trigger behind a route sees it.
-/

namespace KubeZap

open Function

private def Trimmed (l : List Char) : Prop :=
  l.dropWhile isSpace = l ∧ l.rdropWhile isSpace = l

private theorem trimmed_trim (l : List Char) :
    Trimmed ((l.dropWhile isSpace).rdropWhile isSpace) := by
  refine ⟨List.dropWhile_eq_self_iff.mpr fun hlt => ?_, List.rdropWhile_idempotent _ _⟩
  have hpre := List.rdropWhile_prefix isSpace (l.dropWhile isSpace)
  rw [hpre.getElem hlt]
  exact List.dropWhile_get_zero_not isSpace l (hlt.trans_le hpre.length_le)

private theorem Trimmed.cons {c : Char} {l : List Char} (hc : isSpace c = false)
    (hl : Trimmed l) : Trimmed (c :: l) := by
  refine ⟨List.dropWhile_cons_of_neg (by simp [hc]), ?_⟩
  rw [List.rdropWhile_eq_self_iff]
  intro _
  cases l with
  | nil => simp [hc]
  | cons d rest =>
    rw [List.getLast_cons (List.cons_ne_nil d rest)]
    exact List.rdropWhile_eq_self_iff.mp hl.2 (List.cons_ne_nil d rest)

private theorem trimSpace_of_trimmed {s : String} (h : Trimmed s.toList) : trimSpace s = s := by
  rw [trimSpace, h.1, h.2, String.ofList_toList]

private theorem trimmed_trimSpace (s : String) : Trimmed (trimSpace s).toList := by
  rw [trimSpace, String.toList_ofList]
  exact trimmed_trim s.toList

theorem trimSpace_slash (s : String) : trimSpace ("/" ++ trimSpace s) = "/" ++ trimSpace s := by
  apply trimSpace_of_trimmed
  rw [String.toList_append]
  exact (trimmed_trimSpace s).cons (by decide)

def normalizePath (path : String) : String :=
  let path := trimSpace path
  if !startsWith path "/hooks/" then
    "/hooks/" ++ trimStart path "/"
  else
    path

/-- A path that is given without its leading slash is normalised as if it had one,
unless the rest is itself below `hooks/`. -/
theorem normalizePath_slash {s : String} (hslash : startsWith (trimSpace s) "/" = false)
    (hhooks : startsWith (trimSpace s) "hooks/" = false) :
    normalizePath ("/" ++ trimSpace s) = normalizePath s := by
  have hin : startsWith ("/" ++ trimSpace s) "/hooks/" = false := by
    simpa [startsWith, String.toList_append, List.isPrefixOf] using hhooks
  have hout : startsWith (trimSpace s) "/hooks/" = false := by
    cases hl : (trimSpace s).toList with
    | nil => simp [startsWith, hl]
    | cons c rest =>
      simp only [startsWith, hl] at hslash ⊢
      simp_all [List.isPrefixOf]
  have hcut : trimStart ("/" ++ trimSpace s) "/" = trimSpace s := by
    simp [trimStart, startsWith, String.toList_append, List.isPrefixOf]
  have hkeep : trimStart (trimSpace s) "/" = trimSpace s := by simp [trimStart, hslash]
  simp only [normalizePath, trimSpace_slash, hin, hout, hcut, hkeep, Bool.not_false, if_true]

theorem normalizePath_trimSpace (s : String) : normalizePath (trimSpace s) = normalizePath s := by
  simp only [normalizePath, trimSpace_of_trimmed (trimmed_trimSpace s)]

structure OIDCValidator where
  jwksURL : String
  issuer : String
  audience : String
deriving DecidableEq

/-- The credentials are those read when the route was built. The method is one of
the two that the API admits, whose text is upper case already. -/
structure RouteEntry where
  triggerName : String
  triggerNamespace : String
  flowRef : String
  flowNamespace : String
  allowedMethod : WebhookMethod
  authType : Option WebhookAuthType := none
  hmacSecret : String := ""
  hmacProvider : Option HMACProvider := none
  hmacTimestampToleranceSec : Int := 0
  bearerToken : String := ""
  basicUsername : String := ""
  basicPassword : String := ""
  apiKey : String := ""
  apiKeyHeader : String := ""
  ipAllowlist : List String := []
  headerEqualsHeader : String := ""
  headerEqualsValue : String := ""
  oidcValidator : Option OIDCValidator := none
  maxInvocations : Int := 0
  cooldownWindow : Duration := 0
  redactHeaders : List String := []
  redactBody : Bool := false
deriving DecidableEq

def RouteEntry.trigger (e : RouteEntry) : NamespacedName := ⟨e.triggerNamespace, e.triggerName⟩

structure RouteRegistry where
  routes : String → Option RouteEntry

namespace RouteRegistry

def new : RouteRegistry := ⟨fun _ => none⟩

variable (r : RouteRegistry) (path : String)

def register (entry : RouteEntry) : RouteRegistry :=
  ⟨update r.routes (normalizePath path) (some entry)⟩

def deregister : RouteRegistry :=
  ⟨update r.routes (normalizePath path) none⟩

def lookup : Option RouteEntry :=
  r.routes (normalizePath path)

@[simp] theorem routes_register (entry : RouteEntry) :
    (r.register path entry).routes = update r.routes (normalizePath path) (some entry) := by
  rw [register]

@[simp] theorem routes_deregister :
    (r.deregister path).routes = update r.routes (normalizePath path) none := by
  rw [deregister]

end RouteRegistry

end KubeZap
