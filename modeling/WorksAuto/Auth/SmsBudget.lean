import WorksAuto.Auth.Sms

/-! How many messages a number is sent.
While each call sends its message on readings that are up to date, the cooldown lasts as long as
the minute after the last message, and the hourly count covers the messages of the last hour. -/

namespace WorksAuto.Auth.Sms

open Lib Accounts

/-- The call has found no cooldown and a count below the limit, as far as it has read. -/
def Step.Permitted : Step → Prop
  | readHourly isCoolingDown => firstText [isCoolingDown] = none
  | findUser read | setCode read _ | sendSms read _ =>
    firstText [read.isCoolingDown] = none ∧ read.hourlyCount < 5
  | _ => True

def Step.hourlyCount : Step → ℕ
  | setCooldown n _ | setHourly n _ => n
  | _ => 0

def Step.writes : Step → Bool
  | sendSms _ _ | setCooldown _ _ | setHourly _ _ => true
  | _ => false

def Step.cooling : Step → Bool
  | setHourly _ _ => true
  | _ => false

section Invariant

variable (c : Config) (w : World) (phone : String)

def World.recorded : List Message := (w.sentTo phone).filter fun m => m.recorded c

def World.lastHour : ℕ := (recent Message.acceptedAt 3600000 w.now (w.recorded c phone)).length

def World.Cooled : Prop :=
  ∀ m ∈ w.recorded c phone, ∃ expiresAt, w.cooldown phone = some ⟨"1", expiresAt⟩ ∧
    m.acceptedAt + 60000 ≤ expiresAt

/-- The hourly count lasts for an hour after each message and covers the last hour. -/
def World.Counted : Prop :=
  ∀ m ∈ w.recorded c phone, ∃ e, w.hourly phone = some e ∧ m.acceptedAt + 3600000 ≤ e.expiresAt ∧
    w.lastHour c phone ≤ e.value

/-- The invariant of the runs in which the calls act on readings that are up to date. -/
structure System.Recorded (s : System) : Prop where
  budget : s.shared.WithinBudget phone
  past : ∀ m ∈ s.shared.sentTo phone, m.acceptedAt ≤ s.shared.now
  permitted : ∀ k t, s.threads.get? k = some t → t.step.Permitted
  pending : ∀ k t, s.threads.get? k = some t → t.entering phone = true →
    s.shared.lastHour c phone ≤ t.step.hourlyCount + 1
  cooling : ∀ k t, s.threads.get? k = some t → t.entering phone = true → t.step.cooling = true →
    s.shared.Cooled c phone
  covered : s.count (Task.entering phone) = 0 → s.shared.Cooled c phone ∧ s.shared.Counted c phone

end Invariant

section Still

/-- Time has passed, and nothing that matters for the number has been written. -/
structure World.Still (phone : String) (w w' : World) : Prop where
  now : w.now ≤ w'.now
  sentTo : w'.sentTo phone = w.sentTo phone
  cooldown : w'.cooldown phone = w.cooldown phone
  hourly : w'.hourly phone = w.hourly phone

variable {c : Config} {w w' : World} {phone : String} {t : Task} {env : Env}

theorem World.still_elapse (phone : String) (w : World) (milliseconds : ℕ) :
    World.Still phone w (w.elapse milliseconds) :=
  ⟨Nat.le_add_right _ _, rfl, rfl, rfl⟩

theorem World.Still.recorded (h : World.Still phone w w') :
    w'.recorded c phone = w.recorded c phone := by
  unfold World.recorded
  rw [h.sentTo]

theorem World.Still.lastHour_le (h : World.Still phone w w') :
    w'.lastHour c phone ≤ w.lastHour c phone := by
  unfold World.lastHour
  rw [h.recorded]
  exact (recent_sublist h.now).length_le

theorem World.Still.cooled (h : World.Still phone w w') (hw : w.Cooled c phone) :
    w'.Cooled c phone := by
  unfold World.Cooled
  rw [h.recorded, h.cooldown]
  exact hw

theorem World.Still.counted (h : World.Still phone w w') (hw : w.Counted c phone) :
    w'.Counted c phone := by
  unfold World.Counted
  rw [h.recorded, h.hourly]
  intro m hm
  obtain ⟨e, he, hexpires, hcovers⟩ := hw m hm
  exact ⟨e, he, hexpires, h.lastHour_le.trans hcovers⟩

theorem World.Still.budget (h : World.Still phone w w') (hw : w.WithinBudget phone) :
    w'.WithinBudget phone := by
  obtain ⟨hminute, hhour⟩ := hw
  exact ⟨h.sentTo ▸ hminute, h.sentTo ▸ hhour⟩

theorem World.Still.past (h : World.Still phone w w')
    (hw : ∀ m ∈ w.sentTo phone, m.acceptedAt ≤ w.now) :
    ∀ m ∈ w'.sentTo phone, m.acceptedAt ≤ w'.now := by
  rw [h.sentTo]
  exact fun m hm => (hw m hm).trans h.now

theorem World.sentTo_sendSms (w : World) (text : String) (d : Delivery) {other : String}
    (h : other ≠ phone) : (w.sendSms other text d).sentTo phone = w.sentTo phone := by
  have hnot : ∀ reported, List.filter (fun m : Message => m.phone = phone)
      (⟨other, text, w.now, reported⟩ :: w.accepted) = w.sentTo phone :=
    fun reported => List.filter_cons_of_neg (by simpa using h)
  cases d with
  | accepted => exact hnot true
  | unanswered => exact hnot false
  | refused => rfl

theorem Task.exec_still (c : Config) (w : World) (env : Env)
    (h : t.normalizedPhone ≠ phone ∨ t.step.writes = false) :
    World.Still phone w (t.exec c w env).1 := by
  have helapse := World.still_elapse phone w env.elapsed
  obtain ⟨other, step⟩ := t
  cases step with
  | sendSms read otpCode =>
    have hne : other ≠ phone := h.resolve_right nofun
    refine ⟨?_, World.sentTo_sendSms _ _ _ hne, ?_, ?_⟩ <;>
      cases hd : env.delivery <;> simp [Task.exec, Task.next, World.sendSms, World.elapse, hd]
  | setCooldown n otpCode =>
    have hne : other ≠ phone := h.resolve_right nofun
    exact ⟨helapse.now, rfl, Function.update_of_ne hne.symm .., rfl⟩
  | setHourly n otpCode =>
    have hne : other ≠ phone := h.resolve_right nofun
    exact ⟨helapse.now, rfl, rfl, Function.update_of_ne hne.symm ..⟩
  | _ => exact ⟨helapse.now, rfl, rfl, rfl⟩

theorem Task.exec_permitted (w : World) (env : Env) (h : t.step.Permitted) :
    (t.exec c w env).2.step.Permitted := by
  obtain ⟨phone, step⟩ := t
  cases step with
  | readCooldown =>
    simp only [Task.exec, Task.next]
    split_ifs with hcooling
    · trivial
    · simpa [Step.Permitted] using hcooling
  | readHourly isCoolingDown =>
    simp only [Task.exec, Task.next]
    split_ifs with hlimit
    · trivial
    · exact ⟨h, not_le.mp hlimit⟩
  | findUser read =>
    simp only [Task.exec, Task.next]
    split_ifs
    · exact h
    · trivial
  | setCode read otpCode => exact h
  | sendSms read otpCode =>
    simp only [Task.exec, Task.next]
    split_ifs <;> trivial
  | _ => trivial

theorem Task.exec_entering (c : Config) (w : World) (env : Env) (phone : String)
    (h : t.step.writes = false) :
    t.entering phone = false ∧ (t.exec c w env).2.entering phone = false := by
  obtain ⟨other, step⟩ := t
  cases step with
  | sendSms read otpCode => cases h
  | setCooldown n otpCode => cases h
  | setHourly n otpCode => cases h
  | readCooldown =>
    simp only [Task.exec, Task.next, Task.entering]
    split_ifs <;> simp [Step.entering]
  | readHourly =>
    simp only [Task.exec, Task.next, Task.entering]
    split_ifs <;> simp [Step.entering]
  | findUser n =>
    simp only [Task.exec, Task.next, Task.entering]
    split_ifs <;> simp [Step.entering]
  | _ => simp [Task.exec, Task.next, Task.entering, Step.entering]

theorem Task.entering_eq_false (h : t.normalizedPhone ≠ phone) : t.entering phone = false := by
  simp [Task.entering, h]

end Still

section Steps

variable {c : Config} {phone : String} {s : System} {k : ℕ} {t : Task} {env : Env}

theorem shared_step (hk : s.threads.get? k = some t) (env : Env) :
    (System.act c s (.step k env)).shared = (t.exec c s.shared env).1 :=
  congrArg Pool.shared (Pool.act_step_some hk env)

theorem count_step (hk : s.threads.get? k = some t) (env : Env) (phone : String) :
    (System.act c s (.step k env)).count (Task.entering phone) + (t.entering phone).toNat =
      s.count (Task.entering phone) + ((t.exec c s.shared env).2.entering phone).toNat :=
  Pool.count_step _ _ hk env _

theorem of_get?_step (hk : s.threads.get? k = some t) {i : ℕ} {u : Task}
    (h : (System.act c s (.step k env)).threads.get? i = some u) :
    u = (t.exec c s.shared env).2 ∨ s.threads.get? i = some u := by
  have hthreads : (System.act c s (.step k env)).threads =
      s.threads.modify k fun _ => (t.exec c s.shared env).2 :=
    congrArg Pool.threads (Pool.act_step_some hk env)
  rw [hthreads] at h
  obtain ⟨old, hold, he⟩ := Table.of_get?_modify h
  split_ifs at he
  · exact .inl he.symm
  · exact .inr (he ▸ hold)

theorem System.Recorded.permitted_step (h : s.Recorded c phone) (hk : s.threads.get? k = some t)
    (env : Env) : ∀ i u, (System.act c s (.step k env)).threads.get? i = some u →
      u.step.Permitted := by
  intro i u hi
  rcases of_get?_step hk hi with rfl | hold
  · exact Task.exec_permitted s.shared env (h.permitted k t hk)
  · exact h.permitted i u hold

theorem System.Recorded.still (h : s.Recorded c phone) (hk : s.threads.get? k = some t)
    (hstill : World.Still phone s.shared (t.exec c s.shared env).1)
    (hbefore : t.entering phone = false) (hafter : (t.exec c s.shared env).2.entering phone = false) :
    (System.act c s (.step k env)).Recorded c phone := by
  have hshared := shared_step hk env (c := c)
  have hcount := count_step hk env phone (c := c)
  rw [hbefore, hafter] at hcount
  have hsame : (System.act c s (.step k env)).count (Task.entering phone) =
      s.count (Task.entering phone) := by simpa using hcount
  have hold : ∀ i u, (System.act c s (.step k env)).threads.get? i = some u →
      u.entering phone = true → s.threads.get? i = some u := by
    intro i u hi hu
    rcases of_get?_step hk hi with rfl | hold
    · rw [hafter] at hu
      cases hu
    · exact hold
  refine ⟨?_, ?_, h.permitted_step hk env, ?_, ?_, ?_⟩
  · rw [hshared]
    exact hstill.budget h.budget
  · rw [hshared]
    exact hstill.past h.past
  · intro i u hi hu
    rw [hshared]
    exact hstill.lastHour_le.trans (h.pending i u (hold i u hi hu) hu)
  · intro i u hi hu hcooling
    rw [hshared]
    exact hstill.cooled (h.cooling i u (hold i u hi hu) hu hcooling)
  · intro hzero
    rw [hsame] at hzero
    rw [hshared]
    exact ⟨hstill.cooled (h.covered hzero).1, hstill.counted (h.covered hzero).2⟩

theorem entering_of_count (hk : s.threads.get? k = some t) (ht : t.entering phone = true) :
    s.count (Task.entering phone) ≠ 0 := by
  intro hzero
  have hnone := Pool.count_eq_zero hzero hk
  rw [ht] at hnone
  cases hnone

theorem System.Recorded.beginCooldown (h : s.Recorded c phone) {n : ℕ} {otpCode : String}
    (hk : s.threads.get? k = some ⟨phone, .setCooldown n otpCode⟩) (env : Env) :
    (System.act c s (.step k env)).Recorded c phone := by
  have hentering : Task.entering phone ⟨phone, .setCooldown n otpCode⟩ = true := by
    simp [Task.entering, Step.entering]
  have hshared : (System.act c s (.step k env)).shared =
      (s.shared.elapse env.elapsed).setCooldown phone "1" 60 := shared_step hk env
  have helapse := World.still_elapse phone s.shared env.elapsed
  have hpast := helapse.past h.past
  have hcooled : ((s.shared.elapse env.elapsed).setCooldown phone "1" 60).Cooled c phone := by
    intro m hm
    refine ⟨_, Function.update_self .., ?_⟩
    exact Nat.add_le_add_right (hpast m (List.mem_filter.mp hm).1) 60000
  have hown : s.shared.lastHour c phone ≤ n + 1 := h.pending k _ hk hentering
  have hcount := count_step hk env phone (c := c)
  refine ⟨?_, ?_, h.permitted_step hk env, ?_, ?_, ?_⟩
  · rw [hshared]
    exact ⟨(helapse.budget h.budget).minute, (helapse.budget h.budget).hour⟩
  · rw [hshared]
    exact hpast
  · intro i u hi hu
    rw [hshared]
    refine helapse.lastHour_le.trans ?_
    rcases of_get?_step hk hi with rfl | hold
    · exact hown
    · exact h.pending i u hold hu
  · intro i u hi hu _
    rw [hshared]
    exact hcooled
  · intro hzero
    have hpending := entering_of_count hk hentering
    have hafter : (Task.exec c s.shared ⟨phone, .setCooldown n otpCode⟩ env).2.entering phone = true := by
      simp [Task.exec, Task.next, Task.entering, Step.entering]
    rw [hentering, hafter] at hcount
    omega

theorem System.Recorded.count (h : s.Recorded c phone) {n : ℕ} {otpCode : String}
    (hk : s.threads.get? k = some ⟨phone, .setHourly n otpCode⟩) (env : Env) :
    (System.act c s (.step k env)).Recorded c phone := by
  have hentering : Task.entering phone ⟨phone, .setHourly n otpCode⟩ = true := by
    simp [Task.entering, Step.entering]
  have hshared : (System.act c s (.step k env)).shared =
      (s.shared.elapse env.elapsed).setHourly phone (n + 1) 3600 := shared_step hk env
  have helapse := World.still_elapse phone s.shared env.elapsed
  have hpast := helapse.past h.past
  have hlast : (s.shared.elapse env.elapsed).lastHour c phone ≤ n + 1 :=
    helapse.lastHour_le.trans (h.pending k _ hk hentering)
  have hafter : (Task.exec c s.shared ⟨phone, .setHourly n otpCode⟩ env).2.entering phone = false := by
    simp [Task.exec, Task.next, Task.entering, Step.entering]
  have hold : ∀ i u, (System.act c s (.step k env)).threads.get? i = some u →
      u.entering phone = true → s.threads.get? i = some u := by
    intro i u hi hu
    rcases of_get?_step hk hi with rfl | hold
    · rw [hafter] at hu
      cases hu
    · exact hold
  refine ⟨?_, ?_, h.permitted_step hk env, ?_, ?_, ?_⟩
  · rw [hshared]
    exact ⟨(helapse.budget h.budget).minute, (helapse.budget h.budget).hour⟩
  · rw [hshared]
    exact hpast
  · intro i u hi hu
    rw [hshared]
    exact helapse.lastHour_le.trans (h.pending i u (hold i u hi hu) hu)
  · intro i u hi hu hcooling
    rw [hshared]
    exact helapse.cooled (h.cooling i u (hold i u hi hu) hu hcooling)
  · intro _
    rw [hshared]
    refine ⟨helapse.cooled (h.cooling k _ hk hentering rfl), fun m hm => ?_⟩
    refine ⟨_, Function.update_self .., ?_, hlast⟩
    exact Nat.add_le_add_right (hpast m (List.mem_filter.mp hm).1) 3600000

end Steps

section Send

variable {c : Config} {phone text : String} {w : World} {s : System} {d : Delivery}

theorem World.sentTo_sendSms_self (w : World) (phone text : String) (d : Delivery) :
    (w.sendSms phone text d).sentTo phone = w.sentTo phone ∨
      ∃ reported, (w.sendSms phone text d).sentTo phone =
        ⟨phone, text, w.now, reported⟩ :: w.sentTo phone := by
  have hcons : ∀ reported, List.filter (fun m : Message => m.phone = phone)
      (⟨phone, text, w.now, reported⟩ :: w.accepted) =
        ⟨phone, text, w.now, reported⟩ :: w.sentTo phone :=
    fun reported => List.filter_cons_of_pos (by simp)
  cases d with
  | accepted => exact .inr ⟨true, hcons true⟩
  | unanswered => exact .inr ⟨false, hcons false⟩
  | refused => exact .inl rfl

@[simp] theorem World.sendSms_now : (w.sendSms phone text d).now = w.now := by
  cases d <;> rfl

@[simp] theorem World.sendSms_cooldown : (w.sendSms phone text d).cooldown = w.cooldown := by
  cases d <;> rfl

@[simp] theorem World.sendSms_hourly : (w.sendSms phone text d).hourly = w.hourly := by
  cases d <;> rfl

theorem World.past_sendSms (h : ∀ m ∈ w.sentTo phone, m.acceptedAt ≤ w.now) (text : String)
    (d : Delivery) :
    ∀ m ∈ (w.sendSms phone text d).sentTo phone, m.acceptedAt ≤ (w.sendSms phone text d).now := by
  intro m hm
  rw [World.sendSms_now]
  obtain hsame | ⟨reported, hcons⟩ := w.sentTo_sendSms_self phone text d
  · rw [hsame] at hm
    exact h m hm
  · rw [hcons] at hm
    rcases List.mem_cons.mp hm with rfl | hm
    · exact le_rfl
    · exact h m hm

structure World.Room (w : World) (phone : String) : Prop where
  minute : (recent Message.acceptedAt 60000 w.now (w.sentTo phone)).length ≤ 0
  hour : (recent Message.acceptedAt 3600000 w.now (w.sentTo phone)).length ≤ 4

theorem World.WithinBudget.sendSms (h : w.WithinBudget phone) (hroom : w.Room phone) (text : String)
    (d : Delivery) : (w.sendSms phone text d).WithinBudget phone := by
  obtain hsame | ⟨reported, hcons⟩ := w.sentTo_sendSms_self phone text d
  · exact ⟨hsame ▸ h.minute, hsame ▸ h.hour⟩
  · exact ⟨hcons ▸ h.minute.cons hroom.minute, hcons ▸ h.hour.cons hroom.hour⟩

theorem World.lastHour_sendSms_le (c : Config) (w : World) (phone text : String) (d : Delivery) :
    (w.sendSms phone text d).lastHour c phone ≤ w.lastHour c phone + 1 := by
  unfold World.lastHour World.recorded
  rw [World.sendSms_now]
  obtain hsame | ⟨reported, hcons⟩ := w.sentTo_sendSms_self phone text d
  · rw [hsame]
    exact Nat.le_succ _
  · rw [hcons, List.filter_cons]
    split_ifs
    · exact length_recent_cons_le
    · exact Nat.le_succ _

theorem World.recorded_unanswered (hbypass : c.bypass = false) :
    (w.sendSms phone text .unanswered).recorded c phone = w.recorded c phone := by
  have hcons : (w.sendSms phone text .unanswered).sentTo phone =
      ⟨phone, text, w.now, false⟩ :: w.sentTo phone := List.filter_cons_of_pos (by simp)
  unfold World.recorded
  rw [hcons, List.filter_cons_of_neg (by simp [Message.recorded, hbypass])]

theorem World.length_recent (c : Config) (w : World) (phone : String) :
    (recent Message.acceptedAt 3600000 w.now (w.sentTo phone)).length =
      w.lastHour c phone + w.unrecorded c phone := by
  have hcounted : w.lastHour c phone =
      (recent Message.acceptedAt 3600000 w.now (w.sentTo phone)).countP fun m => m.recorded c := by
    rw [List.countP_eq_length_filter, World.lastHour, World.recorded, recent, List.filter_comm]
    rfl
  rw [hcounted, World.unrecorded, List.length_eq_countP_add_countP fun m : Message => m.recorded c]
  simp

theorem World.live_of_lt {α : Type} {e : Otp.Entry α} (h : w.now < e.expiresAt) :
    w.live (some e) = some e.value := by
  simp [World.live, h]

theorem System.Recorded.room (h : s.Recorded c phone) (hstill : World.Still phone s.shared w)
    {read : Readings} (hnone : firstText [read.isCoolingDown] = none) (hlimit : read.hourlyCount < 5)
    (hup : s.UpToDate c w phone read) : w.Room phone ∧ w.lastHour c phone ≤ read.hourlyCount := by
  have hcooled := hstill.cooled (h.covered hup.alone).1
  have hcounted := hstill.counted (h.covered hup.alone).2
  have hlast : w.lastHour c phone ≤ read.hourlyCount := by
    cases hcases : recent Message.acceptedAt 3600000 w.now (w.recorded c phone) with
    | nil =>
      rw [World.lastHour, hcases]
      exact Nat.zero_le _
    | cons m _ =>
      obtain ⟨hm, hrecent⟩ := mem_recent.mp (hcases ▸ List.mem_cons_self :
        m ∈ recent Message.acceptedAt 3600000 w.now (w.recorded c phone))
      obtain ⟨e, he, hexpires, hcovers⟩ := hcounted m hm
      have hlive := hup.hourly
      rw [he, World.live_of_lt (hrecent.trans_le hexpires)] at hlive
      exact hcovers.trans hlive
  have hhour : (recent Message.acceptedAt 3600000 w.now (w.sentTo phone)).length ≤ 4 := by
    have hlength := World.length_recent c w phone
    have hfew := hup.hour
    omega
  have hminute : recent Message.acceptedAt 60000 w.now (w.sentTo phone) = [] := by
    rw [List.eq_nil_iff_forall_not_mem]
    intro m hm
    obtain ⟨hsent, hlt⟩ := mem_recent.mp hm
    obtain ⟨expiresAt, he, hexpires⟩ := hcooled m (List.mem_filter.mpr ⟨hsent, hup.minute m hm⟩)
    have hcooling := hup.cooldown
    rw [he, World.live_of_lt (hlt.trans_le hexpires)] at hcooling
    rw [← hcooling] at hnone
    cases hnone
  exact ⟨⟨by rw [hminute]; exact le_rfl, hhour⟩, hlast⟩

end Send

section Runs

variable {c : Config} {phone : String} {s : System} {k : ℕ} {env : Env}

theorem World.covered_unanswered {w : World} (hbypass : c.bypass = false) (text : String)
    (h : w.Cooled c phone ∧ w.Counted c phone) :
    (w.sendSms phone text .unanswered).Cooled c phone ∧
      (w.sendSms phone text .unanswered).Counted c phone := by
  have hrecorded : (w.sendSms phone text .unanswered).recorded c phone = w.recorded c phone :=
    World.recorded_unanswered hbypass
  have hlast : (w.sendSms phone text .unanswered).lastHour c phone = w.lastHour c phone := by
    unfold World.lastHour
    rw [hrecorded]
    rfl
  unfold World.Cooled World.Counted
  rw [hrecorded, hlast]
  exact h

theorem System.Recorded.send (h : s.Recorded c phone) {read : Readings} {otpCode : String}
    (hk : s.threads.get? k = some ⟨phone, .sendSms read otpCode⟩)
    (hup : s.UpToDate c (s.shared.elapse env.elapsed) phone read)
    (hissued : ¬ (env.delivery = .refused ∧ c.bypass = false)) :
    (System.act c s (.step k env)).Recorded c phone := by
  have hstill := World.still_elapse phone s.shared env.elapsed
  obtain ⟨hnone, hlimit⟩ : Step.Permitted (.sendSms read otpCode) := h.permitted k _ hk
  obtain ⟨hroom, hlast⟩ := h.room hstill hnone hlimit hup
  have hshared : (System.act c s (.step k env)).shared =
      (s.shared.elapse env.elapsed).sendSms phone (otpMessage otpCode) env.delivery :=
    shared_step hk env
  have hnobody : ∀ i u, s.threads.get? i = some u → u.entering phone = true → False := by
    intro i u hi hu
    exact entering_of_count hi hu hup.alone
  have hcount := count_step hk env phone (c := c)
  refine ⟨?_, ?_, h.permitted_step hk env, ?_, ?_, ?_⟩
  · rw [hshared]
    exact (hstill.budget h.budget).sendSms hroom _ _
  · rw [hshared]
    exact World.past_sendSms (hstill.past h.past) _ _
  · intro i u hi hu
    rcases of_get?_step hk hi with rfl | hold
    · have hnext : (Task.exec c s.shared ⟨phone, .sendSms read otpCode⟩ env).2.step.hourlyCount =
          read.hourlyCount := by
        simp only [Task.exec, Task.next, Task.entering] at hu ⊢
        split_ifs at hu ⊢
        · rfl
        · simp [Step.entering] at hu
      rw [hshared, hnext]
      exact (World.lastHour_sendSms_le ..).trans (Nat.succ_le_succ hlast)
    · exact (hnobody i u hold hu).elim
  · intro i u hi hu hcooling
    rcases of_get?_step hk hi with rfl | hold
    · simp only [Task.exec, Task.next] at hcooling
      split_ifs at hcooling <;> cases hcooling
    · exact (hnobody i u hold hu).elim
  · intro hzero
    have hquiet : (Task.exec c s.shared ⟨phone, .sendSms read otpCode⟩ env).2.entering phone = false := by
      rw [Bool.eq_false_iff]
      intro hnew
      rw [hnew, hzero, hup.alone] at hcount
      simp [Task.entering, Step.entering] at hcount
    have hends : ¬ (env.delivery = .accepted ∨ c.bypass = true) := by
      intro hgoes
      simp [Task.exec, Task.next, Task.entering, Step.entering, hgoes] at hquiet
    have hbypass : c.bypass = false := by simpa using fun hb => hends (.inr hb)
    have hdelivery : env.delivery = .unanswered := by
      cases hd : env.delivery with
      | accepted => exact (hends (.inl hd)).elim
      | unanswered => rfl
      | refused => exact (hissued ⟨hd, hbypass⟩).elim
    rw [hshared, hdelivery]
    have hcovered := h.covered hup.alone
    exact World.covered_unanswered hbypass _ ⟨hstill.cooled hcovered.1, hstill.counted hcovered.2⟩

theorem System.Recorded.step (h : s.Recorded c phone) {t : Task} (hk : s.threads.get? k = some t)
    (htimely : t.Timely c s phone env) : (System.act c s (.step k env)).Recorded c phone := by
  by_cases hphone : t.normalizedPhone = phone
  · cases hwrites : t.step.writes with
    | false =>
      obtain ⟨hbefore, hafter⟩ := Task.exec_entering c s.shared env phone hwrites
      exact h.still hk (Task.exec_still c s.shared env (.inr hwrites)) hbefore hafter
    | true =>
      obtain ⟨_, step⟩ := t
      subst hphone
      cases step with
      | sendSms read otpCode =>
        by_cases hrefused : env.delivery = .refused ∧ c.bypass = false
        · refine h.still hk ?_ (by simp [Task.entering, Step.entering])
            (by simp [Task.exec, Task.next, Task.entering, Step.entering, hrefused])
          simp only [Task.exec, Task.next, hrefused.1, World.sendSms]
          exact World.still_elapse ..
        · exact h.send hk (htimely rfl hrefused) hrefused
      | setCooldown n otpCode => exact h.beginCooldown hk env
      | setHourly n otpCode => exact h.count hk env
      | _ => cases hwrites
  · exact h.still hk (Task.exec_still c s.shared env (.inl hphone)) (Task.entering_eq_false hphone)
      (Task.entering_eq_false hphone)

theorem System.Recorded.start (h : s.Recorded c phone) (spelling : String) :
    (System.act c s (.start spelling)).Recorded c phone := by
  have hquiet : (Task.enter spelling).entering phone = false ∧
      (Task.enter spelling).step.Permitted := by
    simp only [Task.enter, Task.entering]
    split_ifs <;> simp [Step.entering, Step.Permitted]
  have hcount : (System.act c s (.start spelling)).count (Task.entering phone) =
      s.count (Task.entering phone) := Pool.count_start hquiet.1 s
  have hold : ∀ i u, (System.act c s (.start spelling)).threads.get? i = some u →
      u = Task.enter spelling ∨ s.threads.get? i = some u := by
    intro i u hi
    have hinsert : (s.threads.insert (Task.enter spelling)).get? i = some u := hi
    rw [Table.get?_insert] at hinsert
    split_ifs at hinsert
    · exact .inl (Option.some.inj hinsert).symm
    · exact .inr hinsert
  refine ⟨h.budget, h.past, ?_, ?_, ?_, ?_⟩
  · intro i u hi
    rcases hold i u hi with rfl | hu
    · exact hquiet.2
    · exact h.permitted i u hu
  · intro i u hi hentering
    rcases hold i u hi with rfl | hu
    · rw [hquiet.1] at hentering
      cases hentering
    · exact h.pending i u hu hentering
  · intro i u hi hentering hcooling
    rcases hold i u hi with rfl | hu
    · rw [hquiet.1] at hentering
      cases hentering
    · exact h.cooling i u hu hentering hcooling
  · intro hzero
    rw [hcount] at hzero
    exact h.covered hzero

theorem System.Recorded.act (h : s.Recorded c phone) {a : PoolAction String Env}
    (htimely : s.Timely c phone a) : (System.act c s a).Recorded c phone := by
  cases a with
  | start spelling => exact h.start spelling
  | step k env =>
    cases hk : s.threads.get? k with
    | none =>
      have hsame : System.act c s (.step k env) = s := Pool.act_step_none hk env
      rw [hsame]
      exact h
    | some t => exact h.step hk (htimely t hk)

theorem recorded_idle {w : World} (hw : w.accepted = []) :
    System.Recorded c phone (Pool.idle w) := by
  have hsent : w.sentTo phone = [] := by rw [World.sentTo, hw, List.filter_nil]
  have hrecorded : w.recorded c phone = [] := by rw [World.recorded, hsent, List.filter_nil]
  have hnothing : w.WithinBudget phone :=
    ⟨hsent ▸ atMostWithin_nil, hsent ▸ atMostWithin_nil⟩
  refine ⟨hnothing, ?_, nofun, nofun, nofun, fun _ => ⟨?_, ?_⟩⟩
  · intro m hm
    rw [Pool.idle, hsent] at hm
    cases hm
  · intro m hm
    rw [Pool.idle, hrecorded] at hm
    cases hm
  · intro m hm
    rw [Pool.idle, hrecorded] at hm
    cases hm

def international (n : Mobile) : String := String.ofList (['9', '0'] ++ n.digits)

/-- A number is sent no more than its budget in every run in which the calls for it send their
messages on readings that are up to date. -/
theorem budget_kept (c : Config) (n : Mobile) {w : World} (hw : w.accepted = [])
    {actions : List (PoolAction String Env)}
    (htimely : EachStep (System.act c) (System.Timely c (international n)) (Pool.idle w) actions) :
    Always (System.act c) (fun s => s.shared.WithinBudget (international n)) (Pool.idle w) actions := by
  have keep : ∀ s a, System.Recorded c (international n) s → s.Timely c (international n) a →
      System.Recorded c (international n) (System.act c s a) :=
    fun _ _ hs ha => hs.act ha
  exact (always_of_step keep (recorded_idle hw) htimely).mono fun _ hs => hs.budget

end Runs

section Example

def live : Config := ⟨"production", "false"⟩

def quietWorld : World := ⟨0, fun _ => none, fun _ => none, fun _ => none, []⟩

def subscriber : Mobile where
  rest := "551112233".toList
  nine := by decide +kernel
  isDigit := List.all_eq_true.mp (by decide +kernel)

def after (seconds : ℕ) : Env := ⟨1000 * seconds, true, 0, .accepted⟩

/-- The steps of one call, each a second after the one before. -/
def through (thread : ℕ) (steps : ℕ) : List (PoolAction String Env) :=
  List.replicate steps (.step thread (after 1))

/-- The second call comes when the cooldown of the first is over. -/
theorem budget_kept_in_turn :
    Always (System.act live) (fun s => s.shared.WithinBudget (international subscriber))
      (Pool.idle quietWorld)
      (.start "0555 111 22 33" :: through 0 7 ++
        .start "+90 (555) 111-22-33" :: .step 1 (after 60) :: through 1 6) :=
  budget_kept live subscriber rfl (by decide +kernel)

/-- Two calls for one number read before either writes. -/
theorem sent_at_once :
    ¬ ∀ c n w actions, w.accepted = [] → Always (System.act c)
      (fun s => s.shared.WithinBudget (international n)) (Pool.idle w) actions := by
  intro h
  have hminute := (h live subscriber quietWorld
    ([.start "0555 111 22 33", .start "5551112233"] ++
      (List.replicate 5 [.step 0 (after 0), .step 1 (after 0)]).flatten) rfl).last.minute 0
  revert hminute
  decide +kernel

end Example

end WorksAuto.Auth.Sms
