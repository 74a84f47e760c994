import WorksAuto.Invoices.Settings
import WorksAuto.Lib.Requests

/-! Whose credentials an integrator is called with.
Whatever interleaves, a stored credential reads as a text its own tenant gave
for that field, and a call to an integrator carries no other. -/

namespace WorksAuto
open Lib

def EInvoiceProvider.credentials : EInvoiceProvider → Option ProviderCredentials
  | .internalDraft _ => none
  | .parasut creds | .nilvera creds | .bizimHesap creds | .kolayBi creds => some creds

theorem credentials_getProviderFromInput {provider : InvoiceProviderType}
    {creds creds' : ProviderCredentials} {draftOf : String}
    (h : (getProviderFromInput provider creds draftOf).credentials = some creds') :
    creds' = creds := by
  cases provider <;> cases h <;> rfl

/-- The text was given in the request itself, which is a test of the tenant. -/
def SettingsRequest.Tries (tenantId : String) (k : Secret) (x : String) (r : SettingsRequest) :
    Prop :=
  ∃ dto, r = .testConnection tenantId dto ∧ dto.secrets.get k = some x

section Invariant

variable (crypto : ICryptoService) (given : String → Secret → String → Prop)

def ReadsOwn (tenantId : String) (encrypted : Secrets (Option String)) : Prop :=
  ∀ k x, crypto.decrypt (encrypted.get k) = some x → given tenantId k x

def RowsOwn (rows : List InvoiceSetting) : Prop :=
  ∀ row ∈ rows, ReadsOwn crypto given row.tenantId row.encrypted

def TaskOwn (r : SettingsRequest) : SettingsTask → Prop
  | .finding tenantId dto => ∀ k text, dto.secrets.get k = .text text →
      given tenantId k (jsTrim text)
  | .storing tenantId data => ReadsOwn crypto given tenantId data.encrypted
  | .testing tenantId dto => r = .testConnection tenantId dto
  | .connected tenantId provider => ∀ creds, provider.credentials = some creds →
      ∀ k x, creds.secrets.get k = some x → given tenantId k x ∨ r.Tries tenantId k x
  | _ => True

variable {crypto given} {r : SettingsRequest}

theorem RowsOwn.found {rows : List InvoiceSetting} (h : RowsOwn crypto given rows)
    {tenantId : String} {row : InvoiceSetting} (hrow : findByTenantId rows tenantId = some row) :
    ReadsOwn crypto given tenantId row.encrypted := by
  have htenant : row.tenantId = tenantId := by simpa using List.find?_some hrow
  rw [← htenant]
  exact h row (List.mem_of_find?_eq_some hrow)

theorem ReadsOwn.orElse {tenantId : String} {s t : Secrets (Option String)}
    (hs : ReadsOwn crypto given tenantId s) (ht : ReadsOwn crypto given tenantId t) :
    ReadsOwn crypto given tenantId (s.zipWith (· <|> ·) t) := by
  intro k x hx
  rw [Secrets.get_zipWith] at hx
  cases hk : s.get k with
  | none =>
    rw [hk] at hx
    exact ht k x hx
  | some c =>
    rw [hk] at hx
    exact hs k x (by rw [hk]; exact hx)

theorem upsert_own {rows : List InvoiceSetting} (h : RowsOwn crypto given rows) {tenantId : String}
    {data : InvoiceSettingData} (hdata : ReadsOwn crypto given tenantId data.encrypted) :
    RowsOwn crypto given (upsert rows tenantId data) := by
  unfold upsert
  split
  · intro row hrow
    obtain ⟨old, hold, rfl⟩ := List.mem_map.mp hrow
    split
    next htenant =>
      subst htenant
      exact hdata.orElse (h old hold)
    next => exact h old hold
  · intro row hrow
    rcases List.mem_append.mp hrow with hrow | hrow
    · exact h row hrow
    · rw [List.mem_singleton.mp hrow]
      exact hdata

theorem updateData_own (faithful : crypto.Faithful) {rows : List InvoiceSetting}
    (h : RowsOwn crypto given rows) {tenantId : String} {dto : UpdateInvoiceSettingsDto}
    (hdto : ∀ k text, dto.secrets.get k = .text text → given tenantId k (jsTrim text))
    {ivs : Secrets (List UInt8)} {data : InvoiceSettingData}
    (hdata : updateData crypto ivs (findByTenantId rows tenantId) dto = some data) :
    ReadsOwn crypto given tenantId data.encrypted := by
  obtain ⟨encrypted, hseq, rfl⟩ := Option.map_eq_some_iff.mp hdata
  intro k x hx
  have hfield := Secrets.get_sequence hseq k
  rw [get_encryptedSecrets] at hfield
  cases hgiven : dto.secrets.get k with
  | undefined =>
    rw [hgiven] at hfield
    have hkept : (storedSecrets (findByTenantId rows tenantId)).get k = encrypted.get k :=
      Option.some.inj hfield
    cases hfound : findByTenantId rows tenantId with
    | none =>
      have hnone : encrypted.get k = none := by
        rw [← hkept, hfound]
        cases k <;> rfl
      rw [hnone, faithful.missing] at hx
      cases hx
    | some row =>
      rw [hfound] at hkept
      exact h.found hfound k x (by rw [← hx, ← hkept]; rfl)
  | null =>
    rw [hgiven] at hfield
    cases hfield
  | text value =>
    rw [hgiven] at hfield
    have hkept := Option.some.inj hfield
    by_cases hblank : jsTrim value = ""
    · rw [if_pos hblank] at hkept
      rw [← hkept, faithful.missing] at hx
      cases hx
    · rw [if_neg hblank] at hkept
      obtain ⟨stored, -, hstored, hread⟩ := faithful.stores (ivs.get k) _ hblank
      rw [← hkept, hstored, hread] at hx
      cases hx
      exact hdto k value hgiven

theorem decryptedSecrets_own {tenantId : String} {row : InvoiceSetting}
    (h : ReadsOwn crypto given tenantId row.encrypted) {k : Secret} {x : String}
    (hx : (decryptedSecrets crypto row).get k = some x) : given tenantId k x := by
  rw [decryptedSecrets, Secrets.get_map] at hx
  exact h k x (Option.filter_eq_some_iff.mp hx).1

theorem testedProvider_own {tenantId : String} {dto : TestInvoiceConnectionDto}
    (hr : r = .testConnection tenantId dto) {existing : Option InvoiceSetting}
    (hexisting : ∀ row, existing = some row → ReadsOwn crypto given tenantId row.encrypted) :
    TaskOwn crypto given r (.connected tenantId (testedProvider crypto dto existing)) := by
  intro creds hcreds k x hx
  obtain rfl := credentials_getProviderFromInput hcreds
  cases hrow : existing with
  | none =>
    rw [hrow] at hx
    exact .inr ⟨dto, hr, hx⟩
  | some row =>
    simp only [hrow, Secrets.get_zipWith] at hx
    cases hgiven : truthyText (dto.secrets.get k) with
    | none =>
      rw [hgiven] at hx
      exact .inl (decryptedSecrets_own (hexisting row hrow) hx)
    | some y =>
      rw [hgiven] at hx
      obtain rfl : y = x := Option.some.inj hx
      exact .inr ⟨dto, hr, (Option.filter_eq_some_iff.mp hgiven).1⟩

theorem getProvider_own {rows : List InvoiceSetting} (h : RowsOwn crypto given rows)
    {tenantId : String} :
    TaskOwn crypto given r
      (.connected tenantId (getProvider crypto tenantId (findByTenantId rows tenantId))) := by
  intro creds hcreds k x hx
  cases hrow : findByTenantId rows tenantId with
  | none =>
    rw [hrow] at hcreds
    cases hcreds
  | some row =>
    rw [hrow] at hcreds
    obtain rfl := credentials_getProviderFromInput hcreds
    exact .inl (decryptedSecrets_own (h.found hrow) hx)

theorem exec_own (faithful : crypto.Faithful) {rows : List InvoiceSetting}
    (h : RowsOwn crypto given rows) {task : SettingsTask} (ht : TaskOwn crypto given r task)
    (choice : SettingsChoice) :
    RowsOwn crypto given (task.exec crypto rows choice).1 ∧
      TaskOwn crypto given r (task.exec crypto rows choice).2 := by
  cases task with
  | reading tenantId =>
    simp only [SettingsTask.exec]
    split <;> exact ⟨h, trivial⟩
  | finding tenantId dto =>
    simp only [SettingsTask.exec]
    split
    · exact ⟨h, trivial⟩
    · split
      · exact ⟨h, trivial⟩
      next data hdata => exact ⟨h, updateData_own faithful h ht hdata⟩
  | storing tenantId data =>
    simp only [SettingsTask.exec]
    split
    · exact ⟨h, trivial⟩
    · exact ⟨upsert_own h ht, trivial⟩
  | testing tenantId dto =>
    simp only [SettingsTask.exec]
    split
    · split
      · exact ⟨h, trivial⟩
      · exact ⟨h, testedProvider_own ht fun row hrow => h.found hrow⟩
    · exact ⟨h, testedProvider_own ht fun row hrow => nomatch hrow⟩
  | choosing tenantId =>
    simp only [SettingsTask.exec]
    split
    · exact ⟨h, trivial⟩
    · exact ⟨h, getProvider_own h⟩
  | answered tenantId view => exact ⟨h, trivial⟩
  | connected tenantId provider => exact ⟨h, ht⟩
  | failed => exact ⟨h, trivial⟩

end Invariant

/-- The tenant gave the text for the field: in an update of the run, or before it. -/
def GivenIn (crypto : ICryptoService) (rows : List InvoiceSetting) (labels : List SettingsAction)
    (tenantId : String) (k : Secret) (x : String) : Prop :=
  (∃ row ∈ rows, row.tenantId = tenantId ∧ crypto.decrypt (row.encrypted.get k) = some x) ∨
  ∃ dto text, .start (.updateSettings tenantId dto) ∈ labels ∧
    dto.secrets.get k = .text text ∧ x = jsTrim text

theorem enter_own (crypto : ICryptoService) (rows : List InvoiceSetting)
    {labels : List SettingsAction} {r : SettingsRequest} (h : .start r ∈ labels) :
    TaskOwn crypto (GivenIn crypto rows labels) r r.enter := by
  cases r with
  | getSettings tenantId => trivial
  | updateSettings tenantId dto => exact fun k text htext => .inr ⟨dto, text, h, htext, rfl⟩
  | testConnection tenantId dto => rfl
  | getProvider tenantId => trivial

theorem settings_run_own (service : CryptoService) (rows : List InvoiceSetting)
    (labels : List SettingsAction) :
    Pool.Serves (RowsOwn service.interface (GivenIn service.interface rows labels))
      (fun r _ => TaskOwn service.interface (GivenIn service.interface rows labels) r)
      (Pool.requests labels) (run (settingsAct service.interface) (.idle rows) labels) := by
  have hstart : RowsOwn service.interface (GivenIn service.interface rows labels) rows :=
    fun row hrow k x hx => .inl ⟨row, hrow, rfl, hx⟩
  apply Pool.serves_run hstart
  · intro r now hr
    exact enter_own _ rows (Pool.mem_requests.mp hr)
  · intro k c t now r htook hr hrows htask
    obtain ⟨hrows', htask'⟩ := exec_own service.faithful hrows htask c
    exact ⟨hrows', htask', fun r' u hu => hu⟩

end WorksAuto
