import ClusterRegistry.Credential
import ClusterRegistry.Proofs.Table.Entries
import ClusterRegistry.Proofs.Text.Trimmed

/-!
# Who is let in

What two headers have to say is told here without the order in which they are looked at: the
authorization text bears a token (`Bears`), the address is not blank, and the table lets the token
be used with that address (`Grants`). These conditions are met exactly by the requests that are let
in, and each of the others is turned away in the one category that the headers and the gate of the
kind leave (`authenticate_exact`).
-/

namespace ClusterRegistry

variable {tokens : Table String String} {authorization token email : String}

/-- An authorization text bears a token: between blanks it is the word `bearer`, in whatever letter
case, a space, and the token, which may have further blanks around it and is not empty. -/
def Bears (authorization token : String) : Prop :=
  ∃ scheme rest : List Char, Text.Trims authorization.toList (scheme ++ ' ' :: rest) ∧
    ' ' ∉ scheme ∧ Text.sameIgnoringCase (String.ofList scheme) "bearer" = true ∧
    Text.Trims rest token.toList ∧ token ≠ ""

/-- A table lets a token be used with an address: it has no entries, or an entry that leads from
this very token to the address in whatever letter case. -/
def Grants (tokens : Table String String) (token email : String) : Prop :=
  tokens.entries = [] ∨
    ∃ owner, (token, owner) ∈ tokens.entries ∧ Text.sameIgnoringCase owner email = true

theorem bearerToken?_eq_some_iff :
    bearerToken? authorization = some token ↔ Bears authorization token := by
  constructor
  · intro h
    rw [bearerToken?] at h
    split at h
    · cases h
    · rename_i scheme rest hsplit
      obtain ⟨hwhole, hscheme⟩ := Text.splitFirst_eq_some_iff.mp hsplit
      dsimp only at h
      split at h
      · rename_i hborne
        obtain ⟨hbearer, htoken⟩ := (Bool.and_eq_true _ _).mp hborne
        obtain rfl := Option.some.inj h
        refine ⟨scheme, rest, Text.trimChars_eq_iff.mp hwhole, hscheme, hbearer, ?_, ?_⟩
        · rw [String.toList_ofList]
          exact Text.trims_trimChars rest
        · intro hempty
          rw [String.ofList_eq_empty_iff.mp hempty] at htoken
          cases htoken
      · cases h
  · rintro ⟨scheme, rest, hwhole, hscheme, hbearer, hrest, htoken⟩
    have hsplit := Text.splitFirst_eq_some_iff.mpr ⟨Text.trimChars_eq_iff.mpr hwhole, hscheme⟩
    have hne : token.toList.isEmpty = false :=
      List.isEmpty_eq_false_iff.mpr (mt String.toList_eq_nil_iff.mp htoken)
    rw [bearerToken?, hsplit]
    simp only [Text.trimChars_eq_iff.mpr hrest, hbearer, hne, Bool.not_false, Bool.and_self,
      if_true, String.ofList_toList]

theorem permits_eq_true_iff : permits tokens token email = true ↔ Grants tokens token email := by
  simp only [permits, Grants, Bool.or_eq_true, Option.any_eq_true, Table.isEmpty, List.isEmpty_iff,
    Table.mem_entries_iff]

/-! ## Letting in -/

variable {kind : Option Kind} {c : Credentials} {identity : Identity} {e : ApiError}

theorem trims_trim (rawEmail : String) :
    Text.Trims rawEmail.toList (Text.trim rawEmail).toList := by
  rw [Text.trim, String.toList_ofList]
  exact Text.trims_trimChars rawEmail.toList

theorem eq_trim_of_trims {rawEmail : String} (h : Text.Trims rawEmail.toList email.toList) :
    email = Text.trim rawEmail := by
  rw [Text.trim, Text.trimChars_eq_iff.mpr h, String.ofList_toList]

/-- Two headers are enough if they hold a token and an address that belong together. -/
theorem authenticate_both_eq_ok_iff {rawEmail : String} :
    authenticate tokens kind ⟨some authorization, some rawEmail⟩ = .ok identity ↔
      ∃ token, bearerToken? authorization = some token ∧ Text.trim rawEmail ≠ "" ∧
        permits tokens token (Text.trim rawEmail) = true ∧
        identity = ⟨Text.trim rawEmail, Fingerprint.ofToken token⟩ := by
  cases hborne : bearerToken? authorization with
  | none => simp [authenticate, hborne, refuse]
  | some token =>
    by_cases hempty : Text.trim rawEmail = ""
    · simp [authenticate, hborne, hempty, refuse]
    · by_cases hpermits : permits tokens token (Text.trim rawEmail) = true
      · simp [authenticate, hborne, hempty, hpermits, @eq_comm _ identity]
      · simp [authenticate, hborne, hempty, hpermits, refuse]

theorem authenticate_eq_ok_iff :
    authenticate tokens kind c = .ok identity ↔
      ∃ authorization rawEmail token email,
        c = ⟨some authorization, some rawEmail⟩ ∧ Bears authorization token ∧
          Text.Trims rawEmail.toList email.toList ∧ email ≠ "" ∧ Grants tokens token email ∧
          identity = ⟨email, Fingerprint.ofToken token⟩ := by
  constructor
  · intro h
    obtain ⟨authorization, rawEmail⟩ := c
    cases authorization with
    | none => cases rawEmail <;> cases h
    | some authorization =>
      cases rawEmail with
      | none => cases h
      | some rawEmail =>
        obtain ⟨token, hborne, hne, hpermits, hidentity⟩ := authenticate_both_eq_ok_iff.mp h
        exact ⟨authorization, rawEmail, token, Text.trim rawEmail, rfl,
          bearerToken?_eq_some_iff.mp hborne, trims_trim rawEmail, hne,
          permits_eq_true_iff.mp hpermits, hidentity⟩
  · rintro ⟨authorization, rawEmail, token, email, rfl, hborne, htrims, hne, hgrants, hidentity⟩
    obtain rfl := eq_trim_of_trims htrims
    exact authenticate_both_eq_ok_iff.mpr ⟨token, bearerToken?_eq_some_iff.mpr hborne, hne,
      permits_eq_true_iff.mpr hgrants, hidentity⟩

/-! ## Turning away -/

/-- The gate of a kind counts only for requests that bring no credentials. -/
theorem gate_of_authenticate_eq_error (h : authenticate tokens kind c = .error e) :
    ∃ gate fault, e = .refused gate fault ∧
      (gate = .notAcceptable ↔
        c = ⟨none, none⟩ ∧ ∃ k, kind = some k ∧ k.row.gate = .notAcceptable) := by
  obtain ⟨authorization, rawEmail⟩ := c
  rcases authorization with _ | authorization <;> rcases rawEmail with _ | rawEmail
  · cases h
    refine ⟨_, _, rfl, ?_⟩
    cases kind <;> simp
  · cases h
    exact ⟨_, _, rfl, by simp⟩
  · cases h
    exact ⟨_, _, rfl, by simp⟩
  · have hrefused : ∃ fault, e = .refused .unauthorized fault := by
      rw [authenticate] at h
      dsimp only at h
      split at h
      · exact ⟨_, (Except.error.inj h).symm⟩
      · split at h
        · exact ⟨_, (Except.error.inj h).symm⟩
        · split at h
          · cases h
          · exact ⟨_, (Except.error.inj h).symm⟩
    obtain ⟨fault, rfl⟩ := hrefused
    exact ⟨_, _, rfl, by simp⟩

/-- **Exactly the callers that the table names are let in.** A request is let in if and only if both
headers are there, the authorization bears a token, the address is not blank and the table grants
the token to that address. Who it then comes from is the address without the blanks around it, and
the fingerprint of the token. A request that is not let in is turned away as not acceptable if both
headers are missing and the gate of its kind says so, and as unauthorized in every other case. -/
theorem authenticate_exact (tokens : Table String String) (kind : Option Kind) (c : Credentials) :
    (∀ identity, authenticate tokens kind c = .ok identity ↔
      ∃ authorization rawEmail token email,
        c = ⟨some authorization, some rawEmail⟩ ∧ Bears authorization token ∧
          Text.Trims rawEmail.toList email.toList ∧ email ≠ "" ∧ Grants tokens token email ∧
          identity = ⟨email, Fingerprint.ofToken token⟩) ∧
    ∀ e, authenticate tokens kind c = .error e →
      (e.category = .notAcceptable ∨ e.category = .unauthorized) ∧
      (e.category = .notAcceptable ↔
        c = ⟨none, none⟩ ∧ ∃ k, kind = some k ∧ k.row.gate = .notAcceptable) := by
  refine ⟨fun identity => authenticate_eq_ok_iff, fun e he => ?_⟩
  obtain ⟨gate, fault, rfl, hgate⟩ := gate_of_authenticate_eq_error he
  rw [← hgate]
  cases gate with
  | unauthorized => exact ⟨.inr rfl, by simp [ApiError.category, Gate.category]⟩
  | notAcceptable => exact ⟨.inl rfl, by simp [ApiError.category, Gate.category]⟩

/-- A table of one token. -/
def opsTokens : Table String String := ⟨[("s3cret", "Ops@Rioos.io")], by simp⟩

/-- The owner of the token is let in, however the scheme and the address are written. The token with
another address is turned away as unauthorized, and a request about a plan without any headers as
not acceptable. -/
theorem owner_of_token_let_in :
    authenticate opsTokens (some .plan) ⟨some " BEARER   s3cret ", some " ops@rioos.IO "⟩ =
        .ok ⟨"ops@rioos.IO", Fingerprint.ofToken "s3cret"⟩ ∧
      (∃ e, authenticate opsTokens (some .plan) ⟨some "Bearer s3cret", some "eve@rioos.io"⟩ =
        .error e ∧ e.category = .unauthorized) ∧
      ∃ e, authenticate opsTokens (some .plan) ⟨none, none⟩ = .error e ∧
        e.category = .notAcceptable := by
  refine ⟨?_, ⟨.refused .unauthorized .invalid, by rfl, ?_⟩,
    .refused .notAcceptable .absent, by rfl, ?_⟩
  · refine ((authenticate_exact _ _ _).1 _).mpr ⟨_, _, "s3cret", _, rfl, ?_, ?_, by decide, ?_, rfl⟩
    · exact ⟨"BEARER".toList, "  s3cret".toList, Text.trimChars_eq_iff.mp (by decide), by decide,
        by decide, Text.trimChars_eq_iff.mp (by decide), by decide⟩
    · exact Text.trimChars_eq_iff.mp (by decide)
    · exact .inr ⟨"Ops@Rioos.io", List.mem_cons_self, by decide⟩
  · obtain ⟨hcategory, hgate⟩ := (authenticate_exact opsTokens (some .plan)
      ⟨some "Bearer s3cret", some "eve@rioos.io"⟩).2 _ (by rfl)
    exact hcategory.resolve_left fun h => by simpa using hgate.mp h
  · exact ((authenticate_exact opsTokens (some .plan) ⟨none, none⟩).2 _ (by rfl)).2.mpr
      ⟨rfl, .plan, rfl, by decide⟩

end ClusterRegistry
