import WorksAuto.Invoices.Settings
import WorksAuto.Lib.Lockstep

/-! What the invoice settings do with credentials.
Two pools whose credentials are related, credential by credential, stay so
under related requests. Equality against a service that keeps credentials as
they were given shows what encryption preserves; a relation that looks only at
masks shows what the answers give away. -/

namespace WorksAuto
open Lib

section Alike

variable (V : Secret → String → String → Prop)

def TextAlike (k : Secret) (x x' : String) : Prop := (x = "" ↔ x' = "") ∧ (x ≠ "" → V k x x')

inductive GivenAlike (k : Secret) : Given → Given → Prop
  | undefined : GivenAlike k .undefined .undefined
  | null : GivenAlike k .null .null
  | text {t t' : String} (h : TextAlike V k (jsTrim t) (jsTrim t')) :
    GivenAlike k (.text t) (.text t')

structure UpdateAlike (dto dto' : UpdateInvoiceSettingsDto) : Prop where
  same : dto' = { dto with secrets := dto'.secrets }
  secrets : ∀ k, GivenAlike V k (dto.secrets.get k) (dto'.secrets.get k)

structure TestAlike (dto dto' : TestInvoiceConnectionDto) : Prop where
  same : dto' = { dto with secrets := dto'.secrets }
  secrets : ∀ k, Option.Rel (TextAlike V k) (dto.secrets.get k) (dto'.secrets.get k)

structure CredentialsAlike (creds creds' : ProviderCredentials) : Prop where
  same : creds' = { creds with secrets := creds'.secrets }
  secrets : ∀ k, Option.Rel (TextAlike V k) (creds.secrets.get k) (creds'.secrets.get k)

inductive ProviderAlike : EInvoiceProvider → EInvoiceProvider → Prop
  | internalDraft (tenantId : String) :
    ProviderAlike (.internalDraft tenantId) (.internalDraft tenantId)
  | parasut {creds creds'} (h : CredentialsAlike V creds creds') :
    ProviderAlike (.parasut creds) (.parasut creds')
  | nilvera {creds creds'} (h : CredentialsAlike V creds creds') :
    ProviderAlike (.nilvera creds) (.nilvera creds')
  | bizimHesap {creds creds'} (h : CredentialsAlike V creds creds') :
    ProviderAlike (.bizimHesap creds) (.bizimHesap creds')
  | kolayBi {creds creds'} (h : CredentialsAlike V creds creds') :
    ProviderAlike (.kolayBi creds) (.kolayBi creds')

inductive SettingsRequestAlike : SettingsRequest → SettingsRequest → Prop
  | getSettings (tenantId : String) :
    SettingsRequestAlike (.getSettings tenantId) (.getSettings tenantId)
  | updateSettings (tenantId : String) {dto dto'} (h : UpdateAlike V dto dto') :
    SettingsRequestAlike (.updateSettings tenantId dto) (.updateSettings tenantId dto')
  | testConnection (tenantId : String) {dto dto'} (h : TestAlike V dto dto') :
    SettingsRequestAlike (.testConnection tenantId dto) (.testConnection tenantId dto')
  | getProvider (tenantId : String) :
    SettingsRequestAlike (.getProvider tenantId) (.getProvider tenantId)

variable (crypto crypto' : ICryptoService)

structure StoredAlike (k : Secret) (c c' : String) : Prop where
  left : c ≠ ""
  right : c' ≠ ""
  reads : ∃ x x', crypto.decrypt (some c) = some x ∧ crypto'.decrypt (some c') = some x' ∧
    x ≠ "" ∧ x' ≠ "" ∧ V k x x'

def SecretsAlike (s s' : Secrets (Option String)) : Prop :=
  ∀ k, Option.Rel (StoredAlike V crypto crypto' k) (s.get k) (s'.get k)

structure RowAlike (row row' : InvoiceSetting) : Prop where
  same : row' = { row with encrypted := row'.encrypted }
  encrypted : SecretsAlike V crypto crypto' row.encrypted row'.encrypted

structure DataAlike (data data' : InvoiceSettingData) : Prop where
  same : data' = { data with encrypted := data'.encrypted }
  encrypted : SecretsAlike V crypto crypto' data.encrypted data'.encrypted

inductive SettingsTaskAlike : SettingsTask → SettingsTask → Prop
  | reading (tenantId : String) : SettingsTaskAlike (.reading tenantId) (.reading tenantId)
  | finding (tenantId : String) {dto dto'} (h : UpdateAlike V dto dto') :
    SettingsTaskAlike (.finding tenantId dto) (.finding tenantId dto')
  | storing (tenantId : String) {data data'} (h : DataAlike V crypto crypto' data data') :
    SettingsTaskAlike (.storing tenantId data) (.storing tenantId data')
  | testing (tenantId : String) {dto dto'} (h : TestAlike V dto dto') :
    SettingsTaskAlike (.testing tenantId dto) (.testing tenantId dto')
  | choosing (tenantId : String) : SettingsTaskAlike (.choosing tenantId) (.choosing tenantId)
  | answered (tenantId : String) (view : InvoiceSettingsView) :
    SettingsTaskAlike (.answered tenantId view) (.answered tenantId view)
  | connected (tenantId : String) {provider provider'} (h : ProviderAlike V provider provider') :
    SettingsTaskAlike (.connected tenantId provider) (.connected tenantId provider')
  | failed : SettingsTaskAlike .failed .failed

end Alike

section Steps

variable {V : Secret → String → String → Prop} {crypto crypto' : ICryptoService}

theorem RowAlike.tenantId_eq {row row' : InvoiceSetting}
    (h : RowAlike V crypto crypto' row row') : row'.tenantId = row.tenantId :=
  (congrArg InvoiceSetting.tenantId h.same :)

theorem findByTenantId_alike {rows rows' : List InvoiceSetting}
    (h : List.Forall₂ (RowAlike V crypto crypto') rows rows') (tenantId : String) :
    Option.Rel (RowAlike V crypto crypto') (findByTenantId rows tenantId)
      (findByTenantId rows' tenantId) := by
  unfold findByTenantId
  induction h with
  | nil => exact .none
  | cons hrow _ ih =>
    simp only [List.find?_cons, hrow.tenantId_eq]
    split
    · exact .some hrow
    · exact ih

theorem SecretsAlike.orElse {s s' t t' : Secrets (Option String)}
    (hs : SecretsAlike V crypto crypto' s s') (ht : SecretsAlike V crypto crypto' t t') :
    SecretsAlike V crypto crypto' (s.zipWith (· <|> ·) t) (s'.zipWith (· <|> ·) t') := by
  intro k
  rw [Secrets.get_zipWith, Secrets.get_zipWith]
  exact rel_orElse (hs k) (ht k)

theorem DataAlike.update {data data' : InvoiceSettingData} {row row' : InvoiceSetting}
    (h : DataAlike V crypto crypto' data data') (hrow : RowAlike V crypto crypto' row row') :
    RowAlike V crypto crypto' (data.update row) (data'.update row') where
  same := by
    rw [h.same, hrow.same]
    rfl
  encrypted := h.encrypted.orElse hrow.encrypted

theorem upsert_alike {rows rows' : List InvoiceSetting}
    (h : List.Forall₂ (RowAlike V crypto crypto') rows rows') (tenantId : String)
    {data data' : InvoiceSettingData} (hdata : DataAlike V crypto crypto' data data') :
    List.Forall₂ (RowAlike V crypto crypto') (upsert rows tenantId data)
      (upsert rows' tenantId data') := by
  have hany : (rows'.any fun row => row.tenantId = tenantId) =
      rows.any fun row => row.tenantId = tenantId := by
    induction h with
    | nil => rfl
    | cons hrow _ ih => rw [List.any_cons, List.any_cons, ih, hrow.tenantId_eq]
  have hmap : List.Forall₂ (RowAlike V crypto crypto')
      (rows.map fun row => if row.tenantId = tenantId then data.update row else row)
      (rows'.map fun row => if row.tenantId = tenantId then data'.update row else row) := by
    rw [List.forall₂_map_left_iff, List.forall₂_map_right_iff]
    refine h.imp fun row row' hrow => ?_
    rw [hrow.tenantId_eq]
    split
    · exact hdata.update hrow
    · exact hrow
  unfold upsert
  rw [hany]
  split
  · exact hmap
  · refine List.rel_append h (.cons ⟨?_, hdata.encrypted⟩ .nil)
    rw [hdata.same]
    rfl

theorem encryptedSecret_alike (faithful : crypto.Faithful) (faithful' : crypto'.Faithful)
    (iv iv' : List UInt8) {k : Secret} {existing existing' : Option String}
    (h : Option.Rel (StoredAlike V crypto crypto' k) existing existing') {given given' : Given}
    (hgiven : GivenAlike V k given given') :
    Option.Rel (Option.Rel (StoredAlike V crypto crypto' k))
      (encryptedSecret crypto iv existing given) (encryptedSecret crypto' iv' existing' given') := by
  cases hgiven with
  | undefined => exact .some h
  | null => exact .none
  | @text t t' ht =>
    obtain ⟨hempty, hrel⟩ := ht
    by_cases hblank : jsTrim t = ""
    · simp only [encryptedSecret, if_pos hblank, if_pos (hempty.mp hblank)]
      exact .some .none
    · have hblank' : jsTrim t' ≠ "" := fun he => hblank (hempty.mpr he)
      obtain ⟨c, hne, hc, hread⟩ := faithful.stores iv _ hblank
      obtain ⟨c', hne', hc', hread'⟩ := faithful'.stores iv' _ hblank'
      simp only [encryptedSecret, if_neg hblank, if_neg hblank', hc, hc']
      exact .some (.some ⟨hne, hne', _, _, hread, hread', hblank, hblank', hrel hblank⟩)

theorem get_sequence_alike {α β : Type} {r : Secret → α → β → Prop} {s : Secrets (Option α)}
    {s' : Secrets (Option β)} (h : ∀ k, Option.Rel (r k) (s.get k) (s'.get k)) :
    Option.Rel (fun t t' => ∀ k, r k (t.get k) (t'.get k)) s.sequence s'.sequence := by
  obtain ⟨a, b, c, d⟩ := s
  obtain ⟨a', b', c', d'⟩ := s'
  have ha : Option.Rel (r .apiKey) a a' := h .apiKey
  have hb : Option.Rel (r .apiSecret) b b' := h .apiSecret
  have hc : Option.Rel (r .username) c c' := h .username
  have hd : Option.Rel (r .password) d d' := h .password
  cases ha with
  | none => exact .none
  | some ha =>
    cases hb with
    | none => exact .none
    | some hb =>
      cases hc with
      | none => exact .none
      | some hc =>
        cases hd with
        | none => exact .none
        | some hd =>
          refine .some fun k => ?_
          cases k <;> assumption

theorem updateData_alike (faithful : crypto.Faithful) (faithful' : crypto'.Faithful)
    (ivs ivs' : Secrets (List UInt8)) {existing existing' : Option InvoiceSetting}
    (h : Option.Rel (RowAlike V crypto crypto') existing existing')
    {dto dto' : UpdateInvoiceSettingsDto} (hdto : UpdateAlike V dto dto') :
    Option.Rel (DataAlike V crypto crypto') (updateData crypto ivs existing dto)
      (updateData crypto' ivs' existing' dto') := by
  have hstored : SecretsAlike V crypto crypto' (storedSecrets existing)
      (storedSecrets existing') := by
    cases h with
    | none =>
      intro k
      cases k <;> exact .none
    | some h => exact h.encrypted
  have hfields : ∀ k, Option.Rel (Option.Rel (StoredAlike V crypto crypto' k))
      ((encryptedSecrets crypto ivs (storedSecrets existing) dto.secrets).get k)
      ((encryptedSecrets crypto' ivs' (storedSecrets existing') dto'.secrets).get k) := by
    intro k
    rw [get_encryptedSecrets, get_encryptedSecrets]
    exact encryptedSecret_alike faithful faithful' _ _ (hstored k) (hdto.secrets k)
  refine rel_map (get_sequence_alike hfields) fun s s' hs => ⟨?_, hs⟩
  rw [hdto.same]

structure Shows (V : Secret → String → String → Prop) : Prop where
  apiKey : ∀ x x', V .apiKey x x' → maskString (some x) = maskString (some x')
  username : ∀ x x', V .username x x' → x = x'

theorem truthyText_isSome_eq {k : Secret} {c c' : Option String}
    (h : Option.Rel (StoredAlike V crypto crypto' k) c c') :
    (truthyText c).isSome = (truthyText c').isSome := by
  cases h with
  | none => rfl
  | some h => simp [truthyText, Option.filter, h.left, h.right]

theorem settingsView_eq (shows : Shows V) (faithful : crypto.Faithful)
    (faithful' : crypto'.Faithful) {config config' : Option InvoiceSetting}
    (h : Option.Rel (RowAlike V crypto crypto') config config') :
    settingsView crypto config = settingsView crypto' config' := by
  cases h with
  | none => rfl
  | @some row row' h =>
    have hkey : maskString (crypto.decrypt row.encrypted.apiKey) =
        maskString (crypto'.decrypt row'.encrypted.apiKey) := by
      have hrel : Option.Rel _ row.encrypted.apiKey row'.encrypted.apiKey := h.encrypted .apiKey
      generalize row.encrypted.apiKey = c, row'.encrypted.apiKey = c' at hrel
      cases hrel with
      | none => rw [faithful.missing, faithful'.missing]
      | some h =>
        obtain ⟨x, x', hx, hx', -, -, hv⟩ := h.reads
        rw [hx, hx']
        exact shows.apiKey x x' hv
    have hname : crypto.decrypt row.encrypted.username =
        crypto'.decrypt row'.encrypted.username := by
      have hrel : Option.Rel _ row.encrypted.username row'.encrypted.username :=
        h.encrypted .username
      generalize row.encrypted.username = c, row'.encrypted.username = c' at hrel
      cases hrel with
      | none => rw [faithful.missing, faithful'.missing]
      | some h =>
        obtain ⟨x, x', hx, hx', -, -, hv⟩ := h.reads
        rw [hx, hx', shows.username x x' hv]
    have hapiKey := truthyText_isSome_eq (h.encrypted .apiKey)
    have hapiSecret := truthyText_isSome_eq (h.encrypted .apiSecret)
    have hpassword := truthyText_isSome_eq (h.encrypted .password)
    simp only [Secrets.get] at hapiKey hapiSecret hpassword
    rw [settingsView, settingsView, hapiKey, hapiSecret, hpassword, hkey, hname, h.same]

theorem getProviderFromInput_alike (provider : InvoiceProviderType)
    {creds creds' : ProviderCredentials} (h : CredentialsAlike V creds creds')
    (draftOf : String) :
    ProviderAlike V (getProviderFromInput provider creds draftOf)
      (getProviderFromInput provider creds' draftOf) := by
  cases provider with
  | parasut => exact .parasut h
  | nilvera => exact .nilvera h
  | bizimHesap => exact .bizimHesap h
  | kolayBi => exact .kolayBi h
  | internal => exact .internalDraft draftOf
  | qnbEFinans => exact .internalDraft draftOf

theorem decryptedSecrets_alike (faithful : crypto.Faithful)
    (faithful' : crypto'.Faithful) {row row' : InvoiceSetting}
    (h : RowAlike V crypto crypto' row row') (k : Secret) :
    Option.Rel (TextAlike V k) ((decryptedSecrets crypto row).get k)
      ((decryptedSecrets crypto' row').get k) := by
  rw [decryptedSecrets, decryptedSecrets, Secrets.get_map, Secrets.get_map]
  have hrel := h.encrypted k
  generalize row.encrypted.get k = c, row'.encrypted.get k = c' at hrel
  cases hrel with
  | none =>
    rw [faithful.missing, faithful'.missing]
    exact .none
  | some h =>
    obtain ⟨x, x', hx, hx', hne, hne', hv⟩ := h.reads
    rw [hx, hx']
    simp only [truthyText, Option.filter, ne_eq, hne, hne', not_false_eq_true, decide_true,
      if_true]
    exact .some ⟨by simp [hne, hne'], fun _ => hv⟩

theorem getProvider_alike (faithful : crypto.Faithful)
    (faithful' : crypto'.Faithful) (tenantId : String)
    {config config' : Option InvoiceSetting}
    (h : Option.Rel (RowAlike V crypto crypto') config config') :
    ProviderAlike V (getProvider crypto tenantId config) (getProvider crypto' tenantId config') := by
  cases h with
  | none => exact .internalDraft tenantId
  | @some row row' h =>
    have hrest : row'.provider = row.provider := (congrArg InvoiceSetting.provider h.same :)
    rw [getProvider, getProvider, hrest]
    refine getProviderFromInput_alike _ ⟨?_, decryptedSecrets_alike faithful faithful' h⟩ tenantId
    rw [h.same]

theorem truthyText_alike {k : Secret} {text text' : Option String}
    (h : Option.Rel (TextAlike V k) text text') :
    Option.Rel (TextAlike V k) (truthyText text) (truthyText text') := by
  cases h with
  | none => exact .none
  | @some x x' h =>
    by_cases hx : x = ""
    · simp [truthyText, Option.filter, hx, h.1.mp hx]
    · have hx' : x' ≠ "" := fun he => hx (h.1.mpr he)
      simpa [truthyText, Option.filter, hx, hx'] using h

theorem testedProvider_alike (faithful : crypto.Faithful)
    (faithful' : crypto'.Faithful) {dto dto' : TestInvoiceConnectionDto}
    (hdto : TestAlike V dto dto') {existing existing' : Option InvoiceSetting}
    (h : Option.Rel (RowAlike V crypto crypto') existing existing') :
    ProviderAlike V (testedProvider crypto dto existing)
      (testedProvider crypto' dto' existing') := by
  have hprovider : dto'.provider = dto.provider :=
    (congrArg TestInvoiceConnectionDto.provider hdto.same :)
  unfold testedProvider
  rw [hprovider]
  refine getProviderFromInput_alike _ ⟨by rw [hdto.same], ?_⟩ _
  cases h with
  | none => exact hdto.secrets
  | some h =>
    intro k
    simp only [Secrets.get_zipWith]
    exact rel_orElse (truthyText_alike (hdto.secrets k))
      (decryptedSecrets_alike faithful faithful' h k)

theorem SettingsRequestAlike.enter {r r' : SettingsRequest} (h : SettingsRequestAlike V r r') :
    SettingsTaskAlike V crypto crypto' r.enter r'.enter := by
  cases h with
  | getSettings tenantId => exact .reading tenantId
  | updateSettings tenantId h => exact .finding tenantId h
  | testConnection tenantId h => exact .testing tenantId h
  | getProvider tenantId => exact .choosing tenantId

theorem TestAlike.looksUp_eq {dto dto' : TestInvoiceConnectionDto} (h : TestAlike V dto dto') :
    dto.looksUp = dto'.looksUp :=
  congrArg₂ or (rel_isNone (truthyText_alike (h.secrets .apiKey)))
    (rel_isNone (truthyText_alike (h.secrets .apiSecret)))

theorem exec_alike (shows : Shows V) (faithful : crypto.Faithful) (faithful' : crypto'.Faithful)
    {rows rows' : List InvoiceSetting} (hrows : List.Forall₂ (RowAlike V crypto crypto') rows rows')
    {task task' : SettingsTask} (h : SettingsTaskAlike V crypto crypto' task task')
    {choice choice' : SettingsChoice} (hchoice : choice.refused = choice'.refused) :
    List.Forall₂ (RowAlike V crypto crypto') (task.exec crypto rows choice).1
      (task'.exec crypto' rows' choice').1 ∧
    SettingsTaskAlike V crypto crypto' (task.exec crypto rows choice).2
      (task'.exec crypto' rows' choice').2 := by
  cases h with
  | reading tenantId =>
    simp only [SettingsTask.exec, ← hchoice]
    split
    · exact ⟨hrows, .failed⟩
    · rw [settingsView_eq shows faithful faithful' (findByTenantId_alike hrows tenantId)]
      exact ⟨hrows, .answered tenantId _⟩
  | finding tenantId hdto =>
    simp only [SettingsTask.exec, ← hchoice]
    split
    · exact ⟨hrows, .failed⟩
    · have hdata := updateData_alike faithful faithful' choice.ivs choice'.ivs
        (findByTenantId_alike hrows tenantId) hdto
      generalize updateData crypto choice.ivs _ _ = data,
        updateData crypto' choice'.ivs _ _ = data' at hdata
      cases hdata with
      | none => exact ⟨hrows, .failed⟩
      | some hdata => exact ⟨hrows, .storing tenantId hdata⟩
  | storing tenantId hdata =>
    simp only [SettingsTask.exec, ← hchoice]
    split
    · exact ⟨hrows, .failed⟩
    · exact ⟨upsert_alike hrows tenantId hdata, .reading tenantId⟩
  | testing tenantId hdto =>
    simp only [SettingsTask.exec, ← hchoice, ← hdto.looksUp_eq]
    split
    · split
      · exact ⟨hrows, .failed⟩
      · exact ⟨hrows, .connected tenantId (testedProvider_alike faithful faithful' hdto
          (findByTenantId_alike hrows tenantId))⟩
    · exact ⟨hrows, .connected tenantId (testedProvider_alike faithful faithful' hdto .none)⟩
  | choosing tenantId =>
    simp only [SettingsTask.exec, ← hchoice]
    split
    · exact ⟨hrows, .failed⟩
    · exact ⟨hrows, .connected tenantId (getProvider_alike faithful faithful' tenantId
        (findByTenantId_alike hrows tenantId))⟩
  | answered tenantId view => exact ⟨hrows, .answered tenantId view⟩
  | connected tenantId h => exact ⟨hrows, .connected tenantId h⟩
  | failed => exact ⟨hrows, .failed⟩

abbrev SettingsActionAlike (V : Secret → String → String → Prop) :
    SettingsAction → SettingsAction → Prop :=
  PoolAction.Related (SettingsRequestAlike V) fun choice choice' => choice.refused = choice'.refused

theorem settings_run_alike (shows : Shows V) (faithful : crypto.Faithful)
    (faithful' : crypto'.Faithful) {rows rows' : List InvoiceSetting}
    (hrows : List.Forall₂ (RowAlike V crypto crypto') rows rows')
    {labels labels' : List SettingsAction}
    (hlabels : List.Forall₂ (SettingsActionAlike V) labels labels') :
    Pool.Related (List.Forall₂ (RowAlike V crypto crypto')) (SettingsTaskAlike V crypto crypto')
      (run (settingsAct crypto) (.idle rows) labels)
      (run (settingsAct crypto') (.idle rows') labels') :=
  Pool.related_run hrows (fun _ _ h => h.enter)
    (fun _ _ _ _ _ _ hs ht hc => exec_alike shows faithful faithful' hs ht hc) hlabels

end Steps

section Plain

/-- The row as a service that does not encrypt would hold it. -/
def InvoiceSetting.revealed (crypto : ICryptoService) (row : InvoiceSetting) : InvoiceSetting :=
  { row with encrypted := row.encrypted.map crypto.decrypt }

/-- Every stored credential reads as a text that is not empty. -/
def Readable (crypto : ICryptoService) (rows : List InvoiceSetting) : Prop :=
  ∀ row ∈ rows, ∀ k c, row.encrypted.get k = some c →
    c ≠ "" ∧ ∃ x, x ≠ "" ∧ crypto.decrypt (some c) = some x

def Equal (_ : Secret) (x x' : String) : Prop := x = x'

def SettingsTask.finished : SettingsTask → Bool
  | .answered _ _ | .connected _ _ | .failed => true
  | _ => false

variable {crypto : ICryptoService}

theorem equal_shows : Shows Equal where
  apiKey _ _ h := congrArg (fun x => maskString (some x)) h
  username _ _ h := h

theorem textAlike_refl (k : Secret) (x : String) : TextAlike Equal k x x := ⟨Iff.rfl, fun _ => rfl⟩

theorem textAlike_eq {k : Secret} {x x' : String} (h : TextAlike Equal k x x') : x = x' := by
  by_cases hx : x = ""
  · rw [hx, h.1.mp hx]
  · exact h.2 hx

theorem rel_textAlike_refl (k : Secret) (text : Option String) :
    Option.Rel (TextAlike Equal k) text text := by
  cases text with
  | none => exact .none
  | some x => exact .some (textAlike_refl k x)

theorem settingsRequestAlike_refl (r : SettingsRequest) : SettingsRequestAlike Equal r r := by
  cases r with
  | getSettings tenantId => exact .getSettings tenantId
  | updateSettings tenantId dto =>
    refine .updateSettings tenantId ⟨rfl, fun k => ?_⟩
    cases dto.secrets.get k with
    | undefined => exact .undefined
    | null => exact .null
    | text t => exact .text (textAlike_refl k _)
  | testConnection tenantId dto =>
    exact .testConnection tenantId ⟨rfl, fun k => rel_textAlike_refl k _⟩
  | getProvider tenantId => exact .getProvider tenantId

theorem settingsActionAlike_refl (labels : List SettingsAction) :
    List.Forall₂ (SettingsActionAlike Equal) labels labels := by
  induction labels with
  | nil => exact .nil
  | cons l labels ih =>
    refine .cons ?_ ih
    cases l with
    | start r => exact .start (settingsRequestAlike_refl r)
    | step k c => exact .step k rfl

theorem CredentialsAlike.eq {creds creds' : ProviderCredentials}
    (h : CredentialsAlike Equal creds creds') : creds' = creds := by
  have hsecrets : creds'.secrets = creds.secrets := by
    refine Secrets.ext_get fun k => ?_
    have hk := h.secrets k
    generalize creds.secrets.get k = text, creds'.secrets.get k = text' at hk
    cases hk with
    | none => rfl
    | some hx => rw [textAlike_eq hx]
  rw [h.same, hsecrets]

theorem ProviderAlike.eq {provider provider' : EInvoiceProvider}
    (h : ProviderAlike Equal provider provider') : provider' = provider := by
  cases h with
  | internalDraft tenantId => rfl
  | parasut h => rw [h.eq]
  | nilvera h => rw [h.eq]
  | bizimHesap h => rw [h.eq]
  | kolayBi h => rw [h.eq]

theorem rowAlike_revealed (faithful : crypto.Faithful) {rows : List InvoiceSetting}
    (h : Readable crypto rows) :
    List.Forall₂ (RowAlike Equal crypto .plain) rows (rows.map (InvoiceSetting.revealed crypto)) := by
  rw [List.forall₂_map_right_iff, List.forall₂_same]
  intro row hrow
  refine ⟨rfl, fun k => ?_⟩
  have hget : (row.revealed crypto).encrypted.get k = crypto.decrypt (row.encrypted.get k) :=
    Secrets.get_map _ _ k
  rw [hget]
  cases hc : row.encrypted.get k with
  | none =>
    rw [faithful.missing]
    exact .none
  | some c =>
    obtain ⟨hne, x, hx, hread⟩ := h row hrow k c hc
    rw [hread]
    exact .some ⟨hne, hx, x, x, hread, rfl, hx, hx, rfl⟩

theorem RowAlike.eq_revealed (faithful : crypto.Faithful) {row row' : InvoiceSetting}
    (h : RowAlike Equal crypto .plain row row') : row' = row.revealed crypto := by
  have hsecrets : row'.encrypted = row.encrypted.map crypto.decrypt := by
    refine Secrets.ext_get fun k => ?_
    rw [Secrets.get_map]
    have hk := h.encrypted k
    generalize row.encrypted.get k = c, row'.encrypted.get k = c' at hk
    cases hk with
    | none => exact faithful.missing.symm
    | some hc =>
      obtain ⟨x, x', hx, hx', -, -, hv⟩ := hc.reads
      rw [hx, show x = x' from hv]
      exact hx'
  rw [h.same, hsecrets]
  rfl

/-- In every interleaving of any requests, the stored credentials read as those a store
without encryption would hold, and every request ends with the same answer, the same
failure, or the same integrator under the same credentials. -/
theorem settings_kept_plain (service : CryptoService) {rows : List InvoiceSetting}
    (h : Readable service.interface rows) (labels : List SettingsAction) :
    (run (settingsAct .plain) (.idle (rows.map (InvoiceSetting.revealed service.interface)))
        labels).shared =
      (run (settingsAct service.interface) (.idle rows) labels).shared.map
        (InvoiceSetting.revealed service.interface) ∧
    ∀ k, ((run (settingsAct .plain)
          (.idle (rows.map (InvoiceSetting.revealed service.interface))) labels).threads.get?
          k).filter SettingsTask.finished =
        ((run (settingsAct service.interface) (.idle rows) labels).threads.get? k).filter
          SettingsTask.finished := by
  have hrel := settings_run_alike equal_shows service.faithful ICryptoService.plain_faithful
    (rowAlike_revealed service.faithful h) (settingsActionAlike_refl labels)
  refine ⟨?_, fun k => ?_⟩
  · have hrows := hrel.shared.imp fun _ _ hrow => (hrow.eq_revealed service.faithful).symm
    rwa [← List.forall₂_map_left_iff (R := fun a b => a = b), List.forall₂_eq_eq_eq, eq_comm]
      at hrows
  · have hk := hrel.threads k
    generalize (run (settingsAct service.interface) _ _).threads.get? k = task,
      (run (settingsAct .plain) _ _).threads.get? k = task' at hk
    cases hk with
    | none => rfl
    | some h =>
      cases h with
      | connected tenantId h => rw [h.eq]
      | answered => rfl
      | failed => rfl
      | _ => rfl

def sampleSetting : InvoiceSetting where
  tenantId := "tenant-1"
  provider := .parasut
  encrypted :=
    { apiKey := sampleCrypto.encrypt [7] (some "anahtar-2025")
      apiSecret := none, username := none, password := none }
  companyTaxId := none
  taxOffice := none
  seriesPrefix := some "ATW"
  isTestMode := false
  autoSendOnCompletion := false

def passwordUpdate (password : String) : UpdateInvoiceSettingsDto where
  provider := .parasut
  secrets :=
    { apiKey := .undefined, apiSecret := .undefined, username := .undefined
      password := .text password }
  companyTaxId := none
  taxOffice := none
  seriesPrefix := none
  isTestMode := none
  autoSendOnCompletion := none

theorem sampleSetting_readable : Readable sampleCrypto.interface [sampleSetting] := by
  intro row hrow k c hc
  obtain rfl := List.mem_singleton.mp hrow
  cases k with
  | apiKey =>
    obtain ⟨stored, hne, hstored, hread⟩ :=
      sampleCrypto.faithful.stores [7] "anahtar-2025" (by decide)
    have heq : stored = c := by
      have hboth : sampleCrypto.encrypt [7] (some "anahtar-2025") = some c := hc
      exact Option.some.inj (hstored.symm.trans hboth)
    rw [← heq]
    exact ⟨hne, _, by decide, hread⟩
  | _ => cases hc

def sampleSettingsChoice : SettingsChoice := ⟨⟨[1], [2], [3], [4]⟩, false⟩

def sampleSettingsRun : List SettingsAction :=
  [.start (.updateSettings "tenant-1" (passwordUpdate " gizli ")), .step 0 sampleSettingsChoice,
    .start (.getProvider "tenant-1"), .step 1 sampleSettingsChoice, .step 0 sampleSettingsChoice,
    .step 0 sampleSettingsChoice]

theorem settings_kept_plain_sample :
    Readable sampleCrypto.interface [sampleSetting] ∧
    ((run (settingsAct .plain) (.idle [sampleSetting.revealed sampleCrypto.interface])
        sampleSettingsRun).threads.get? 1).filter SettingsTask.finished =
      ((run (settingsAct sampleCrypto.interface) (.idle [sampleSetting])
        sampleSettingsRun).threads.get? 1).filter SettingsTask.finished :=
  ⟨sampleSetting_readable,
    (settings_kept_plain sampleCrypto sampleSetting_readable sampleSettingsRun).2 1⟩

end Plain

section Masks

/-- What may be told apart of a credential: the mask of the key, the user name,
and of the others only whether they are there. -/
def Masked : Secret → String → String → Prop
  | .apiKey, x, x' => maskString (some x) = maskString (some x')
  | .username, x, x' => x = x'
  | _, _, _ => True

theorem masked_shows : Shows Masked where
  apiKey _ _ h := h
  username _ _ h := h

/-- Under two keys, whatever the initial vectors, requests whose credentials differ
only behind their masks are given the same answers in every interleaving. -/
theorem settings_show_masks (service service' : CryptoService) {rows rows' : List InvoiceSetting}
    (hrows : List.Forall₂ (RowAlike Masked service.interface service'.interface) rows rows')
    {labels labels' : List SettingsAction}
    (hlabels : List.Forall₂ (SettingsActionAlike Masked) labels labels')
    (k : ℕ) (tenantId : String) (view : InvoiceSettingsView) :
    (run (settingsAct service.interface) (.idle rows) labels).threads.get? k =
        some (.answered tenantId view) ↔
      (run (settingsAct service'.interface) (.idle rows') labels').threads.get? k =
        some (.answered tenantId view) := by
  have hrel := (settings_run_alike masked_shows service.faithful service'.faithful hrows
    hlabels).threads k
  generalize (run (settingsAct service.interface) _ _).threads.get? k = task,
    (run (settingsAct service'.interface) _ _).threads.get? k = task' at hrel
  cases hrel with
  | none => exact Iff.rfl
  | some h => cases h <;> simp

def firstUpdate (apiKey apiSecret password : String) : UpdateInvoiceSettingsDto where
  provider := .parasut
  secrets :=
    { apiKey := .text apiKey, apiSecret := .text apiSecret
      username := .text "muhasebe", password := .text password }
  companyTaxId := none
  taxOffice := none
  seriesPrefix := none
  isTestMode := none
  autoSendOnCompletion := none

def firstUpdateRun (apiKey apiSecret password : String) : List SettingsAction :=
  [.start (.updateSettings "tenant-1" (firstUpdate apiKey apiSecret password)),
    .step 0 sampleSettingsChoice, .step 0 sampleSettingsChoice, .step 0 sampleSettingsChoice]

theorem firstUpdateRun_alike : List.Forall₂ (SettingsActionAlike Masked)
    (firstUpdateRun "anahtar-2025" "a" "b") (firstUpdateRun "baska-2025" "c" "ddd") := by
  refine .cons (.start (.updateSettings _ ⟨rfl, fun k => ?_⟩)) (.cons (.step 0 rfl)
    (.cons (.step 0 rfl) (.cons (.step 0 rfl) .nil)))
  cases k with
  | apiKey => exact .text ⟨by decide +kernel, fun _ => by unfold Masked; decide +kernel⟩
  | apiSecret => exact .text ⟨by decide +kernel, fun _ => trivial⟩
  | username => exact .text ⟨Iff.rfl, fun _ => rfl⟩
  | password => exact .text ⟨by decide +kernel, fun _ => trivial⟩

def maskedView : InvoiceSettingsView where
  provider := .parasut
  hasApiKey := true
  hasApiSecret := true
  hasPassword := true
  maskedApiKey := some (some (codeUnits "****2025"))
  username := some "muhasebe"
  companyTaxId := none
  taxOffice := none
  seriesPrefix := "ATW"
  isTestMode := false
  autoSendOnCompletion := false

theorem settings_show_masks_sample :
    (run (settingsAct sampleCrypto.interface) (.idle [])
      (firstUpdateRun "baska-2025" "c" "ddd")).threads.get? 0 =
        some (.answered "tenant-1" maskedView) :=
  (settings_show_masks sampleCrypto sampleCrypto .nil firstUpdateRun_alike 0 "tenant-1"
    maskedView).mp (by decide +kernel)

end Masks

end WorksAuto
