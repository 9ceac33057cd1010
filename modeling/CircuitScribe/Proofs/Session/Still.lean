import CircuitScribe.Proofs.Circuit.Acceptance
import CircuitScribe.Session.Action

namespace CircuitScribe.Session

/-- Two sessions with the same circuits, declaration words and attached attributes. -/
structure Agree (s s' : Session) : Prop where
  circuits : s'.circuits = s.circuits
  keywords : s'.keywords = s.keywords
  attached : s'.attached = s.attached

theorem Agree.refl (s : Session) : Agree s s := ⟨rfl, rfl, rfl⟩

theorem Agree.trans {s₁ s₂ s₃ : Session} (h : Agree s₁ s₂) (h' : Agree s₂ s₃) : Agree s₁ s₃ :=
  ⟨h'.circuits.trans h.circuits, h'.keywords.trans h.keywords, h'.attached.trans h.attached⟩

/-- Two sessions in which the same names are generated next, and with the same log. -/
structure Steady (s s' : Session) : Prop where
  nameCounts : s'.nameCounts = s.nameCounts
  circuitCount : s'.circuitCount = s.circuitCount
  logger : s'.logger = s.logger

theorem Steady.refl (s : Session) : Steady s s := ⟨rfl, rfl, rfl⟩

/-- Two sessions that differ at most in their files and cells, in their instruction sets and in
    their settings readers. -/
structure Still (s s' : Session) : Prop extends Agree s s', Steady s s'

theorem Still.refl (s : Session) : Still s s := ⟨.refl s, .refl s⟩

variable {s : Session}

theorem share_still (s : Session) (v : Value) : Still s (s.share v).2 := ⟨⟨rfl, rfl, rfl⟩, ⟨rfl, rfl, rfl⟩⟩

theorem shareReply_still (s : Session) (reply : Reply) : Still s (s.shareReply reply).1 := by
  unfold shareReply
  split
  · exact share_still s _
  · exact .refl s

theorem changeFiles_still (s : Session) (path : Value)
    (change : String → FileTree × Except FileFault Unit) : Still s (s.changeFiles path change).1 := by
  unfold changeFiles
  split
  · split <;> exact ⟨⟨rfl, rfl, rfl⟩, ⟨rfl, rfl, rfl⟩⟩
  · exact .refl s

theorem chooseSettings_still (s : Session) (path : Value) : Still s (s.chooseSettings path).1 := by
  unfold chooseSettings
  split
  · exact ⟨⟨rfl, rfl, rfl⟩, ⟨rfl, rfl, rfl⟩⟩
  · split <;> exact ⟨⟨rfl, rfl, rfl⟩, ⟨rfl, rfl, rfl⟩⟩
  · exact .refl s

theorem storeSetting_still (s : Session) (key value sectionValue path : Value) :
    Still s (s.storeSetting key value sectionValue path).1 := by
  unfold storeSetting
  split <;> exact ⟨⟨rfl, rfl, rfl⟩, ⟨rfl, rfl, rfl⟩⟩

theorem saveProgram_still (s : Session) (on path : Value) : Still s (s.saveProgram on path).1 := by
  unfold saveProgram
  split
  · split
    · exact .refl s
    · simp only
      split
      · exact ⟨⟨rfl, rfl, rfl⟩, ⟨rfl, rfl, rfl⟩⟩
      · split <;> exact ⟨⟨rfl, rfl, rfl⟩, ⟨rfl, rfl, rfl⟩⟩
  · exact .refl s

theorem saveItself_still (s : Session) (on path : Value) : Still s (s.saveItself on path).1 := by
  unfold saveItself
  split
  · exact s.saveProgram_still on path
  · exact .refl s

theorem append_still {target : Value} {r : GateRecord} {s' : Session}
    (h : s.append target r = .ok s') : Still s s' := by
  unfold append at h
  split at h <;> cases h <;> exact ⟨⟨rfl, rfl, rfl⟩, ⟨rfl, rfl, rfl⟩⟩

theorem addRecord_still {on record : Value} {s' : Session} (h : s.addRecord on record = .ok s') :
    Still s s' := by
  unfold addRecord at h
  split at h
  · split at h
    · obtain ⟨target, _, h⟩ := Fault.bind_eq_ok_iff.mp h
      exact append_still h
    · cases h
  · cases h

theorem putSettings_still {target : Value} {settings : Settings} {s' : Session}
    (h : s.putSettings target settings = .ok s') : Still s s' := by
  unfold putSettings at h
  split at h
  · cases h
    exact ⟨⟨rfl, rfl, rfl⟩, ⟨rfl, rfl, rfl⟩⟩
  · cases h
    exact ⟨⟨rfl, rfl, rfl⟩, ⟨rfl, rfl, rfl⟩⟩
  · split at h <;> cases h
    exact .refl s

theorem useReader_still (s : Session) (on : Value)
    (step : SettingsReader → SettingsReader × Except Fault Unit) : Still s (s.useReader on step).1 := by
  unfold useReader
  split
  · split
    · exact ⟨⟨rfl, rfl, rfl⟩, ⟨rfl, rfl, rfl⟩⟩
    · simp only
      split
      · next hput =>
        have hstill := putSettings_still hput
        exact ⟨⟨hstill.circuits, hstill.keywords, hstill.attached⟩,
          ⟨hstill.nameCounts, hstill.circuitCount, hstill.logger⟩⟩
      · exact ⟨⟨rfl, rfl, rfl⟩, ⟨rfl, rfl, rfl⟩⟩
    · exact .refl s
  · exact .refl s

/-- What holds of a session and of each of its changes holds after a change that may fail. -/
theorem change_induction {P : Session → Prop} {x : Except Fault Session} (hs : P s)
    (h : ∀ s', x = .ok s' → P s') : P (s.change x).1 := by
  cases x with
  | ok s' => exact h s' rfl
  | error fault => exact hs

/-! Gate calls and assignments change circuits and attributes, but no count and no log. -/

theorem gate_steady (s : Session) (on : Value) (call : GateCall) : Steady s (s.gate on call).1 := by
  unfold gate
  split
  · split
    · exact .refl s
    · simp only
      split <;> exact ⟨rfl, rfl, rfl⟩
  · exact .refl s

theorem assign_steady {on value : Value} {a : Attribute} {s' : Session}
    (h : s.assign on a value = .ok s') : Steady s s' := by
  unfold assign at h
  split at h
  · next holder _ =>
    by_cases hfixed : isFixed holder a = true
    · simp only [hfixed, if_true] at h
      cases h
    · simp only [hfixed, Bool.false_eq_true, if_false] at h
      split at h <;> cases h <;> exact ⟨rfl, rfl, rfl⟩
  · cases h

/-- The counts of generated names after an action: a register that is asked for without a name
    uses one up, whether or not it is made. -/
def namesAfter (n : NameCounts) : Action → NameCounts
  | .createRegister kind _ .null => n.next kind
  | _ => n

/-- The count of circuits after an action: a circuit counts whether or not it is made. -/
def circuitsAfter (n : Nat) : Action → Nat
  | .createCircuit _ _ _ => n + 1
  | _ => n

/-- What an action does to the counts of a session, and that it leaves the log alone unless it
    is a call for it. -/
structure Advance (s : Session) (a : Action) (s' : Session) : Prop where
  nameCounts : s'.nameCounts = namesAfter s.nameCounts a
  circuitCount : s'.circuitCount = circuitsAfter s.circuitCount a
  logger : (∀ level, a ≠ .setLogger level) → a ≠ .unsetLogger → s'.logger = s.logger

theorem Steady.advance {a : Action} {s' : Session} (h : Steady s s')
    (hnames : namesAfter s.nameCounts a = s.nameCounts)
    (hcircuits : circuitsAfter s.circuitCount a = s.circuitCount) : Advance s a s' :=
  ⟨h.nameCounts.trans hnames.symm, h.circuitCount.trans hcircuits.symm, fun _ _ => h.logger⟩

theorem createRegister_advance (s : Session) (kind : RegisterKind) (size name : Value) :
    Advance s (.createRegister kind size name) (s.createRegister kind size name).1 := by
  unfold createRegister
  cases name <;> simp only <;> split <;> exact ⟨rfl, rfl, fun _ _ => rfl⟩

theorem createCircuit_advance (s : Session) (registers : List Value) (name spacing given : Value) :
    Advance s (.createCircuit registers name given) (s.createCircuit registers name spacing).1 := by
  unfold createCircuit
  simp only
  split <;> exact ⟨rfl, rfl, fun _ _ => rfl⟩

theorem act_advance (s : Session) (a : Action) : Advance s a (s.act a).1 := by
  cases a with
  | createRegister kind size name => exact s.createRegister_advance kind size name
  | createCircuit registers name spacing => exact s.createCircuit_advance registers name _ spacing
  | gate on call => exact (s.gate_steady on _).advance rfl rfl
  | assign on a value =>
    exact (s.change_induction (.refl s) fun _ h => assign_steady h).advance rfl rfl
  | addRecord on record =>
    exact (s.change_induction (.refl s) fun _ h => (addRecord_still h).toSteady).advance rfl rfl
  | saveProgram on path => exact (s.saveProgram_still on path).toSteady.advance rfl rfl
  | saveItself on path => exact (s.saveItself_still on path).toSteady.advance rfl rfl
  | writeFile path content => exact (s.changeFiles_still path _).toSteady.advance rfl rfl
  | deleteFile path => exact (s.changeFiles_still path _).toSteady.advance rfl rfl
  | makeDirectories path => exact (s.changeFiles_still path _).toSteady.advance rfl rfl
  | chooseSettings path => exact (s.chooseSettings_still path).toSteady.advance rfl rfl
  | storeSetting key value sectionValue path =>
    exact (s.storeSetting_still key value sectionValue path).toSteady.advance rfl rfl
  | readSettings on => exact (s.useReader_still on _).toSteady.advance rfl rfl
  | takeSettings on => exact (s.useReader_still on _).toSteady.advance rfl rfl
  | setLogger level =>
    simp only [act]
    split <;> exact ⟨rfl, rfl, fun h _ => absurd rfl (h level)⟩
  | unsetLogger => exact ⟨rfl, rfl, fun _ h => absurd rfl h⟩
  | checkRange on index => cases on <;> exact (Steady.refl s).advance rfl rfl
  | log source level text =>
    simp only [act]
    split <;> exact (Steady.refl s).advance rfl rfl
  | _ => exact ⟨rfl, rfl, fun _ _ => rfl⟩

theorem perform_advance (s : Session) (a : Action) : Advance s a (s.perform a).1 := by
  have hact := s.act_advance a
  have hshare := (shareReply_still (s.act a).1 (s.act a).2).toSteady
  exact ⟨hshare.nameCounts.trans hact.nameCounts, hshare.circuitCount.trans hact.circuitCount,
    fun hset hunset => hshare.logger.trans (hact.logger hset hunset)⟩

end CircuitScribe.Session
