import ModuleScript.Main
import ModuleScript.Proofs.Analysis.ImportOrder
import ModuleScript.Proofs.Analysis.JoinedBlocks
import ModuleScript.Proofs.Analysis.Listing
import ModuleScript.Proofs.Analysis.LoadedRules
import ModuleScript.Proofs.Cache.Program
import ModuleScript.Proofs.CommandLine.Rendering
import ModuleScript.Proofs.Framework.Fallback
import ModuleScript.Proofs.Framework.Registrations
import ModuleScript.Proofs.ImportMap.KeyReadings
import ModuleScript.Proofs.ImportMap.RoundTrip
import ModuleScript.Proofs.ImportMap.Tagging
import ModuleScript.Proofs.Render.AcceptedNames
import ModuleScript.Proofs.Render.ControllerOrder
import ModuleScript.Proofs.Render.CoreBindings
import ModuleScript.Proofs.Render.DiscoveredLines
import ModuleScript.Proofs.Render.DroppedImports
import ModuleScript.Proofs.Render.FilteredBlock
import ModuleScript.Proofs.Render.FollowedAdvice
import ModuleScript.Proofs.Render.ImportStatements
import ModuleScript.Proofs.Render.KeyFraming
import ModuleScript.Proofs.Render.LiveMap
import ModuleScript.Proofs.Render.OwnImports
import ModuleScript.Proofs.Render.ReadBack
import ModuleScript.Proofs.Render.RegistrationKeys
import ModuleScript.Proofs.Render.TaggedControllers
import ModuleScript.Proofs.Render.WrittenLines
import ModuleScript.Proofs.Rules.Entries
import ModuleScript.Proofs.Session.AcceptedMaps
import ModuleScript.Proofs.Session.Analyses
import ModuleScript.Proofs.Session.CachePrograms
import ModuleScript.Proofs.Session.PlainRenderings
import ModuleScript.Proofs.Session.RepeatedRenderings
import ModuleScript.Proofs.Session.StimulusRenderings
import ModuleScript.Proofs.Session.WarnedRenderings
import ModuleScript.Render.Report
import ModuleScript.Rules.File
