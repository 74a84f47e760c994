import WorksAuto.Lib.Pool
import WorksAuto.Platform.CryptoService
import WorksAuto.Values

/-! Invoice settings: the integrator a tenant uses and its credentials there.
`InvoiceSettingsService`, the Prisma repository behind it and
`EInvoiceProviderFactory`, as requests that interleave between the read of the
tenant's row and its write. -/

namespace WorksAuto
open Lib

inductive InvoiceProviderType where
  | internal
  | parasut
  | nilvera
  | bizimHesap
  | kolayBi
  | qnbEFinans
  deriving DecidableEq, Repr

inductive Secret where
  | apiKey
  | apiSecret
  | username
  | password
  deriving DecidableEq, Repr

structure Secrets (α : Type) where
  apiKey : α
  apiSecret : α
  username : α
  password : α
  deriving DecidableEq, Repr

namespace Secrets

variable {α β γ : Type}

def get (s : Secrets α) : Secret → α
  | .apiKey => s.apiKey
  | .apiSecret => s.apiSecret
  | .username => s.username
  | .password => s.password

def map (f : α → β) (s : Secrets α) : Secrets β where
  apiKey := f s.apiKey
  apiSecret := f s.apiSecret
  username := f s.username
  password := f s.password

def zipWith (f : α → β → γ) (s : Secrets α) (t : Secrets β) : Secrets γ where
  apiKey := f s.apiKey t.apiKey
  apiSecret := f s.apiSecret t.apiSecret
  username := f s.username t.username
  password := f s.password t.password

@[simp] theorem get_map (f : α → β) (s : Secrets α) (k : Secret) :
    (s.map f).get k = f (s.get k) := by
  cases k <;> rfl

@[simp] theorem get_zipWith (f : α → β → γ) (s : Secrets α) (t : Secrets β) (k : Secret) :
    (s.zipWith f t).get k = f (s.get k) (t.get k) := by
  cases k <;> rfl

def sequence (s : Secrets (Option α)) : Option (Secrets α) := do
  let apiKey ← s.apiKey
  let apiSecret ← s.apiSecret
  let username ← s.username
  let password ← s.password
  return ⟨apiKey, apiSecret, username, password⟩

theorem get_sequence {s : Secrets (Option α)} {t : Secrets α} (h : s.sequence = some t)
    (k : Secret) : s.get k = some (t.get k) := by
  simp only [sequence, Option.bind_eq_bind, Option.bind_eq_some_iff, Option.pure_def,
    Option.some.injEq] at h
  obtain ⟨_, h₁, _, h₂, _, h₃, _, h₄, rfl⟩ := h
  cases k <;> assumption

theorem ext_get {s t : Secrets α} (h : ∀ k, s.get k = t.get k) : s = t := by
  cases s
  cases t
  congr 1
  · exact h .apiKey
  · exact h .apiSecret
  · exact h .username
  · exact h .password

end Secrets

inductive Given where
  | undefined
  | null
  | text (value : String)
  deriving DecidableEq, Repr

/-- A row of `tenant_invoice_settings`. -/
structure InvoiceSetting where
  tenantId : String
  provider : InvoiceProviderType
  encrypted : Secrets (Option String)
  companyTaxId : Option String
  taxOffice : Option String
  seriesPrefix : Option String
  isTestMode : Bool
  autoSendOnCompletion : Bool
  deriving DecidableEq, Repr

structure UpdateInvoiceSettingsDto where
  provider : InvoiceProviderType
  secrets : Secrets Given
  companyTaxId : Option String
  taxOffice : Option String
  seriesPrefix : Option String
  isTestMode : Option Bool
  autoSendOnCompletion : Option Bool
  deriving DecidableEq, Repr

structure TestInvoiceConnectionDto where
  provider : InvoiceProviderType
  secrets : Secrets (Option String)
  companyTaxId : Option String
  isTestMode : Option Bool
  deriving DecidableEq, Repr

/-- The data `upsert` is called with. -/
structure InvoiceSettingData where
  provider : InvoiceProviderType
  encrypted : Secrets (Option String)
  companyTaxId : Option String
  taxOffice : Option String
  seriesPrefix : String
  isTestMode : Bool
  autoSendOnCompletion : Bool
  deriving DecidableEq, Repr

section Repository

def findByTenantId (rows : List InvoiceSetting) (tenantId : String) : Option InvoiceSetting :=
  rows.find? fun row => row.tenantId = tenantId

def InvoiceSettingData.create (data : InvoiceSettingData) (tenantId : String) :
    InvoiceSetting where
  tenantId := tenantId
  provider := data.provider
  encrypted := data.encrypted
  companyTaxId := data.companyTaxId
  taxOffice := data.taxOffice
  seriesPrefix := some data.seriesPrefix
  isTestMode := data.isTestMode
  autoSendOnCompletion := data.autoSendOnCompletion

/-- What is `null` in the data is left as the row has it. -/
def InvoiceSettingData.update (data : InvoiceSettingData) (row : InvoiceSetting) :
    InvoiceSetting where
  tenantId := row.tenantId
  provider := data.provider
  encrypted := data.encrypted.zipWith (· <|> ·) row.encrypted
  companyTaxId := data.companyTaxId <|> row.companyTaxId
  taxOffice := data.taxOffice <|> row.taxOffice
  seriesPrefix := some data.seriesPrefix
  isTestMode := data.isTestMode
  autoSendOnCompletion := data.autoSendOnCompletion

def upsert (rows : List InvoiceSetting) (tenantId : String) (data : InvoiceSettingData) :
    List InvoiceSetting :=
  if rows.any fun row => row.tenantId = tenantId then
    rows.map fun row => if row.tenantId = tenantId then data.update row else row
  else rows ++ [data.create tenantId]

end Repository

section Service

variable (crypto : ICryptoService)

/-- UTF-16 code units, which `length` and `slice` count. -/
def codeUnits (text : String) : List ℕ :=
  text.toList.flatMap fun c =>
    if c.toNat < 0x10000 then [c.toNat]
    else [0xD800 + (c.toNat - 0x10000) / 0x400, 0xDC00 + (c.toNat - 0x10000) % 0x400]

def maskString : Option String → Option (List ℕ)
  | none => none
  | some val =>
    if val = "" then none
    else if (codeUnits val).length ≤ 4 then some (codeUnits "****")
    else some (codeUnits "****" ++ (codeUnits val).drop ((codeUnits val).length - 4))

/-- The answer of `getSettings`; without a row it has no `maskedApiKey` at all. -/
structure InvoiceSettingsView where
  provider : InvoiceProviderType
  hasApiKey : Bool
  hasApiSecret : Bool
  hasPassword : Bool
  maskedApiKey : Option (Option (List ℕ))
  username : Option String
  companyTaxId : Option String
  taxOffice : Option String
  seriesPrefix : String
  isTestMode : Bool
  autoSendOnCompletion : Bool
  deriving DecidableEq, Repr

def truthyText (text : Option String) : Option String := text.filter (· ≠ "")

def settingsView : Option InvoiceSetting → InvoiceSettingsView
  | none =>
    { provider := .internal, hasApiKey := false, hasApiSecret := false, hasPassword := false
      maskedApiKey := none, username := none, companyTaxId := none, taxOffice := none
      seriesPrefix := "ATW", isTestMode := false, autoSendOnCompletion := false }
  | some config =>
    { provider := config.provider
      hasApiKey := (truthyText config.encrypted.apiKey).isSome
      hasApiSecret := (truthyText config.encrypted.apiSecret).isSome
      hasPassword := (truthyText config.encrypted.password).isSome
      maskedApiKey := some (maskString (crypto.decrypt config.encrypted.apiKey))
      username := truthyText (crypto.decrypt config.encrypted.username)
      companyTaxId := config.companyTaxId
      taxOffice := config.taxOffice
      seriesPrefix := (truthyText config.seriesPrefix).getD "ATW"
      isTestMode := config.isTestMode
      autoSendOnCompletion := config.autoSendOnCompletion }

/-- One of the four credentials of `updateSettings`; `null.trim()` throws. -/
def encryptedSecret (iv : List UInt8) (existing : Option String) :
    Given → Option (Option String)
  | .undefined => some existing
  | .null => none
  | .text value =>
    some (if jsTrim value = "" then none else crypto.encrypt iv (some (jsTrim value)))

/-- `value?.trim() || null`. -/
def trimmedText (value : Option String) : Option String := truthyText (value.map jsTrim)

def encryptedSecrets (ivs : Secrets (List UInt8)) (existing : Secrets (Option String))
    (given : Secrets Given) : Secrets (Option (Option String)) where
  apiKey := encryptedSecret crypto ivs.apiKey existing.apiKey given.apiKey
  apiSecret := encryptedSecret crypto ivs.apiSecret existing.apiSecret given.apiSecret
  username := encryptedSecret crypto ivs.username existing.username given.username
  password := encryptedSecret crypto ivs.password existing.password given.password

@[simp] theorem get_encryptedSecrets (ivs : Secrets (List UInt8))
    (existing : Secrets (Option String)) (given : Secrets Given) (k : Secret) :
    (encryptedSecrets crypto ivs existing given).get k =
      encryptedSecret crypto (ivs.get k) (existing.get k) (given.get k) := by
  cases k <;> rfl

/-- `existing?.encryptedApiKey` and its like. -/
def storedSecrets (existing : Option InvoiceSetting) : Secrets (Option String) :=
  existing.elim ⟨none, none, none, none⟩ InvoiceSetting.encrypted

/-- `updateSettings` between its read and its write. -/
def updateData (ivs : Secrets (List UInt8)) (existing : Option InvoiceSetting)
    (dto : UpdateInvoiceSettingsDto) : Option InvoiceSettingData :=
  (encryptedSecrets crypto ivs (storedSecrets existing) dto.secrets).sequence.map fun encrypted =>
    { provider := dto.provider
      encrypted := encrypted
      companyTaxId := trimmedText dto.companyTaxId
      taxOffice := trimmedText dto.taxOffice
      seriesPrefix := (trimmedText dto.seriesPrefix).getD "ATW"
      isTestMode := dto.isTestMode.getD false
      autoSendOnCompletion := dto.autoSendOnCompletion.getD false }

end Service

section Providers

structure ProviderCredentials where
  secrets : Secrets (Option String)
  companyTaxId : Option String
  seriesPrefix : Option String
  isTestMode : Option Bool
  deriving DecidableEq, Repr

inductive EInvoiceProvider where
  | internalDraft (tenantId : String)
  | parasut (creds : ProviderCredentials)
  | nilvera (creds : ProviderCredentials)
  | bizimHesap (creds : ProviderCredentials)
  | kolayBi (creds : ProviderCredentials)
  deriving DecidableEq, Repr

/-- `getProviderFromInput`; every provider is given the mode with the credentials. -/
def getProviderFromInput (provider : InvoiceProviderType) (creds : ProviderCredentials)
    (draftOf : String) : EInvoiceProvider :=
  match provider with
  | .parasut => .parasut creds
  | .nilvera => .nilvera creds
  | .bizimHesap => .bizimHesap creds
  | .kolayBi => .kolayBi creds
  | _ => .internalDraft draftOf

variable (crypto : ICryptoService)

def decryptedSecrets (config : InvoiceSetting) : Secrets (Option String) :=
  config.encrypted.map fun stored => truthyText (crypto.decrypt stored)

/-- `getProvider` on the row it found. -/
def getProvider (tenantId : String) : Option InvoiceSetting → EInvoiceProvider
  | none => .internalDraft tenantId
  | some config =>
    getProviderFromInput config.provider
      { secrets := decryptedSecrets crypto config
        companyTaxId := truthyText config.companyTaxId
        seriesPrefix := truthyText config.seriesPrefix
        isTestMode := some config.isTestMode } tenantId

/-- `testConnection` looks the stored credentials up only when the key or the
secret is left blank. -/
def TestInvoiceConnectionDto.looksUp (dto : TestInvoiceConnectionDto) : Bool :=
  (truthyText dto.secrets.apiKey).isNone || (truthyText dto.secrets.apiSecret).isNone

/-- The provider `testConnection` calls, given the row it looked up. -/
def testedProvider (dto : TestInvoiceConnectionDto) (existing : Option InvoiceSetting) :
    EInvoiceProvider :=
  getProviderFromInput dto.provider
    { secrets :=
        match existing with
        | none => dto.secrets
        | some config =>
          dto.secrets.zipWith (fun given stored => truthyText given <|> stored)
            (decryptedSecrets crypto config)
      companyTaxId := dto.companyTaxId
      seriesPrefix := none
      isTestMode := dto.isTestMode } "temp"

end Providers

inductive SettingsRequest where
  | getSettings (tenantId : String)
  | updateSettings (tenantId : String) (dto : UpdateInvoiceSettingsDto)
  | testConnection (tenantId : String) (dto : TestInvoiceConnectionDto)
  /-- an invoice is sent, or a tax number is looked up -/
  | getProvider (tenantId : String)

inductive SettingsTask where
  | reading (tenantId : String)
  | finding (tenantId : String) (dto : UpdateInvoiceSettingsDto)
  | storing (tenantId : String) (data : InvoiceSettingData)
  | testing (tenantId : String) (dto : TestInvoiceConnectionDto)
  | choosing (tenantId : String)
  | answered (tenantId : String) (view : InvoiceSettingsView)
  | connected (tenantId : String) (provider : EInvoiceProvider)
  | failed
  deriving DecidableEq, Repr

/-- What a step draws: the initial vectors, and whether the database refuses. -/
structure SettingsChoice where
  ivs : Secrets (List UInt8)
  refused : Bool

def SettingsRequest.enter : SettingsRequest → SettingsTask
  | .getSettings tenantId => .reading tenantId
  | .updateSettings tenantId dto => .finding tenantId dto
  | .testConnection tenantId dto => .testing tenantId dto
  | .getProvider tenantId => .choosing tenantId

/-- The next step of a request, up to and with its next access to the database. -/
def SettingsTask.exec (crypto : ICryptoService) (rows : List InvoiceSetting)
    (task : SettingsTask) (choice : SettingsChoice) : List InvoiceSetting × SettingsTask :=
  match task with
  | .reading tenantId =>
    if choice.refused then (rows, .failed)
    else (rows, .answered tenantId (settingsView crypto (findByTenantId rows tenantId)))
  | .finding tenantId dto =>
    if choice.refused then (rows, .failed)
    else
      match updateData crypto choice.ivs (findByTenantId rows tenantId) dto with
      | none => (rows, .failed)
      | some data => (rows, .storing tenantId data)
  | .storing tenantId data =>
    if choice.refused then (rows, .failed)
    else (upsert rows tenantId data, .reading tenantId)
  | .testing tenantId dto =>
    if dto.looksUp then
      if choice.refused then (rows, .failed)
      else
        (rows, .connected tenantId
          (testedProvider crypto dto (findByTenantId rows tenantId)))
    else (rows, .connected tenantId (testedProvider crypto dto none))
  | .choosing tenantId =>
    if choice.refused then (rows, .failed)
    else (rows, .connected tenantId (getProvider crypto tenantId (findByTenantId rows tenantId)))
  | _ => (rows, task)

abbrev SettingsPool := Pool (List InvoiceSetting) SettingsTask

abbrev SettingsAction := PoolAction SettingsRequest SettingsChoice

def settingsAct (crypto : ICryptoService) : SettingsPool → SettingsAction → SettingsPool :=
  Pool.act SettingsRequest.enter (SettingsTask.exec crypto)

end WorksAuto
