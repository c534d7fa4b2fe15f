import StaticStyles.Build.Files
import StaticStyles.Css.Reprint
import StaticStyles.InlineStyle
import StaticStyles.Proofs.ClassLookup
import StaticStyles.Proofs.Extraction
import StaticStyles.Rule.Persisted
import StaticStyles.Proofs.Generation
import StaticStyles.Proofs.BuildRun
import StaticStyles.Proofs.SheetAndMaps
import StaticStyles.Proofs.CssText
import StaticStyles.Proofs.ClassNameText
import StaticStyles.Proofs.Blocks
import StaticStyles.Proofs.SheetBlocks
import StaticStyles.Proofs.Interpolation
import StaticStyles.Proofs.ResolutionSoundness
import StaticStyles.Proofs.Enumeration
import StaticStyles.Proofs.ScriptSigns
import StaticStyles.Proofs.SharedRules
import StaticStyles.Proofs.AcceptedSheet
import StaticStyles.Proofs.ClassTokens
import StaticStyles.Proofs.SharedClasses
import StaticStyles.Proofs.Places
import StaticStyles.Proofs.Confinement
import StaticStyles.Proofs.RegistryCalls
import StaticStyles.Proofs.StoreStats
import StaticStyles.Proofs.BuildAccounts
import StaticStyles.Proofs.RenderedSource
import StaticStyles.Proofs.SourceOrder
import StaticStyles.Proofs.PersistedMaps
import StaticStyles.Proofs.ReachableClasses
import StaticStyles.Proofs.TakenNames
import StaticStyles.Proofs.LookupCounts
import StaticStyles.Proofs.TernarySplit
import StaticStyles.Proofs.ConditionalParts
import StaticStyles.Proofs.WrittenLiteral
import StaticStyles.Proofs.WrittenReference
import StaticStyles.Proofs.WrittenExpression
import StaticStyles.Proofs.LogicalFallback
import StaticStyles.Proofs.ExtractedPatterns
import StaticStyles.Proofs.DeclaredUnion
import StaticStyles.Proofs.MinifiedStrings
import StaticStyles.Proofs.ScanProgress
import StaticStyles.Proofs.StaticBodies
import StaticStyles.Proofs.StyleAttribute
import StaticStyles.Proofs.ThemeLeaves
import StaticStyles.Proofs.PlainClassNames
import StaticStyles.Proofs.StableOrder
import StaticStyles.Proofs.OptimizedSheet
import StaticStyles.Proofs.ExcludedFolders
import StaticStyles.Proofs.ReplacedHoles
