import LLMHub.Billing.Charge
import LLMHub.Billing.RefundCredit

namespace LLMHub

open Store Action Go

section Frames
variable {β : Type} {g : DB → β}

theorem cancelHubProviderEarning_keeps (env : Env) (requestId : String)
    (earnings : ∀ db t, g (HasTable.withTable db (t : Table HubProviderEarning)) = g db) :
    (cancelHubProviderEarning env requestId).Keeps g :=
  .ite (.pure _) (.transaction (cancelHubProviderEarningTx_keeps env _ earnings))

end Frames

end LLMHub
