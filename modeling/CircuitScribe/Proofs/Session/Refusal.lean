import CircuitScribe.Proofs.Settings.Store
import CircuitScribe.Session.Action

namespace CircuitScribe

namespace Settings

variable {files files' : FileTree} {fault : Fault} {key value sectionValue : Value}

end Settings

namespace Session

variable {s : Session} {key value sectionValue path : Value} {fault : Fault}

theorem shareReply_eq_error {reply : Reply} (h : (s.shareReply reply).2.result = .error fault) :
    reply.result = .error fault ∧ (s.shareReply reply).1 = s := by
  unfold shareReply at h ⊢
  split at h
  · cases h
  · next hresult =>
    rw [hresult]
    exact ⟨hresult.symm.trans h, rfl⟩

end Session

end CircuitScribe
