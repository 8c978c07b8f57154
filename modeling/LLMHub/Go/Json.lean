namespace Go

/-- Values and their JSON texts. -/
structure JsonTexts (α : Type) where
  marshal : α → String
  unmarshal : String → Option α
  unmarshal_marshal : ∀ value, unmarshal (marshal value) = some value

end Go
