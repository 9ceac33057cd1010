import CircuitScribe.Proofs.Circuit.Bare
import CircuitScribe.Proofs.Circuit.Failure
import CircuitScribe.Proofs.Circuit.Verdict
import CircuitScribe.Proofs.Settings.Refused

namespace CircuitScribe

namespace Fault

/-- A fault that carries the pair of a register and a position, if it carries an operand at all.
    That of a barrier carries nothing in its place. -/
def CarriesBit (fault : Fault) : Prop :=
  ∀ v, fault.operand? = some v → v = .null ∨ ∃ r n, v = .tuple [.register r, .int n]

theorem carriesBit_of_operand? {fault : Fault} (h : fault.operand? = none) : fault.CarriesBit := by
  intro v hv
  rw [h] at hv
  cases hv

/-- Faults that are the same up to their registers carry equal operands. -/
theorem CarriesBit.equals {fault fault' : Fault} (h : fault.CarriesBit) (hbare : fault.bare = fault'.bare) :
    Option.Rel (fun v w => v.equals (Keywords.same []) w = true) fault.operand? fault'.operand? := by
  have hoperands : fault.operand?.map Value.bare = fault'.operand?.map Value.bare := by
    rw [← operand?_bare, ← operand?_bare, hbare]
  cases hv : fault.operand? with
  | none =>
    rw [hv, Option.map_none, eq_comm, Option.map_eq_none_iff] at hoperands
    rw [hoperands]
    exact .none
  | some v =>
    rw [hv, Option.map_some, eq_comm, Option.map_eq_some_iff] at hoperands
    obtain ⟨w, hw, hvw⟩ := hoperands
    rw [hw]
    refine .some ?_
    rcases h v hv with rfl | ⟨r, n, rfl⟩
    · cases w <;> simp only [Value.bare, reduceCtorEq] at hvw
      rfl
    · obtain ⟨r', rfl, hr'⟩ := Value.bare_eq_pair hvw
      simp [Value.equals, Value.agrees, Value.agreesAll, Keywords.same_nil_iff.mpr hr'.symm, Value.number?,
        Value.Number.agrees, Value.Number.equals]

end Fault

open Fault (CarriesBit carriesBit_of_operand?)

namespace Settings

theorem Refused.operand?_eq_none {d : Document} {fault : Fault} (h : Refused d fault) :
    fault.operand? = none := by
  rcases h with hfamily | ⟨_, _, _, _, _, rfl⟩
  · cases fault with
    | operand f => cases f <;> cases hfamily
    | _ => rfl
  · rfl

theorem operand?_of_readDocument {r : SettingsReader} {files : FileTree} {fault : Fault}
    (h : (r.readDocument files).2 = .error fault) : fault.operand? = none := by
  have hsource {f : Fault} (hf : r.source? files = .error f) : f.operand? = none := by
    unfold SettingsReader.source? at hf
    split at hf
    · cases hf
    · split at hf <;> cases hf
      rfl
    · cases hf
    · cases hf
      rfl
  have hmerge {path : String} {content : ByteArray} {f : Fault}
      (hf : (SettingsReader.merge r.document path content).2 = .error f) : f.operand? = none := by
    unfold SettingsReader.merge at hf
    split at hf <;> cases hf
    rfl
  unfold SettingsReader.readDocument at h
  split at h
  · next hfault =>
    cases h
    exact hsource hfault
  · cases h
  · next path content _ =>
    cases hresult : (SettingsReader.merge r.document path content).2 with
    | ok _ =>
      simp only [hresult, Except.map, reduceCtorEq] at h
    | error f =>
      simp only [hresult, Except.map, Except.error.injEq] at h
      subst h
      exact hmerge hresult

/-- Settings that cannot be read have nothing to do with operands. -/
theorem operand?_of_inForce {files : FileTree} {path : Option String} {fault : Fault}
    (h : inForce files path = .error fault) : fault.operand? = none := by
  simp only [inForce, SettingsReader.read] at h
  split at h
  · cases h
  · next hread =>
    cases h
    split at hread
    · exact (refused_of_takeFrom (congrArg Prod.snd hread)).operand?_eq_none
    · cases hread
    · next hdocument =>
      cases hread
      exact operand?_of_readDocument (congrArg Prod.snd hdocument)

end Settings

namespace Circuit

variable {env : Surroundings} {c : Circuit} {fault : Fault}

theorem carriesBit_of_bit {kw : Keywords} {kind : RegisterKind} {operand : Value}
    (h : c.bit kw kind operand = .error fault) : fault.CarriesBit := by
  rcases refusal_of_bit h with ⟨_, hoperand⟩ | hunsaid
  · intro v hv
    rw [hoperand] at hv
    unfold refusal at hv
    split at hv
    · next r n =>
      obtain rfl := Option.some.inj hv
      exact .inr ⟨_, _, rfl⟩
    · cases hv
  · exact carriesBit_of_operand? hunsaid.operand?_eq_none

/-- A gate call that is refused because of an operand names the bit that was asked for. What the
    settings fail with carries no operand. -/
theorem carriesBit_of_call {call : GateCall}
    (hsettings : ∀ fault, env.settings = .error fault → fault.operand? = none)
    (h : (c.call env call).result = .error fault) : fault.CarriesBit := by
  cases failsWith_of_call h with
  | operand _ hbit => exact carriesBit_of_bit hbit
  | position _ => exact carriesBit_of_operand? rfl
  | settings _ hload => exact carriesBit_of_operand? (hsettings _ hload)
  | length _ _ _ => exact carriesBit_of_operand? rfl
  | sizes _ _ _ => exact carriesBit_of_operand? rfl
  | barrier _ _ =>
    rintro v ⟨⟩
    exact .inl rfl
  | name _ hname =>
    rcases Value.cases_of_inserted_eq_error hname with ⟨_, _, _, rfl⟩ | ⟨_, _, hprint⟩
    · exact carriesBit_of_operand? rfl
    · exact carriesBit_of_operand? (Value.isPrinting_of_checkPrint hprint).operand?_eq_none

end Circuit

end CircuitScribe
