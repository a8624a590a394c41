import Karabiner.KeyCode
import Karabiner.Transition
import Karabiner.FlagStatus
import Karabiner.ScopedSetter
import Karabiner.Traced
import Karabiner.StrlcpyUtf8
import Karabiner.VectorBuffer
import Karabiner.RemapClassLoad
import Karabiner.Framing
import Karabiner.LoadReads
import Karabiner.LoadAccepts
import Karabiner.LoadFormat
import Karabiner.InitializeVector
import Karabiner.RoundTrip
import Karabiner.Params
import Karabiner.HeldLine
import Karabiner.EventInputQueue
import Karabiner.ArrivalOrder
import Karabiner.PhysicalKeys
import Karabiner.RemapClass
import Karabiner.ActivePresses
import Karabiner.SimultaneousKeyPresses
import Karabiner.SimultaneousScan
import Karabiner.SimultaneousLedger
import Karabiner.SimultaneousDelivery
import Karabiner.SimultaneousPairs
import Karabiner.OutputKeyCode
import Karabiner.ButtonStatus
import Karabiner.EventTimers
import Karabiner.NoStranded
import Karabiner.Throwing
import Karabiner.XmlTree
import Karabiner.Autogen
import Karabiner.InitializeVectorLoader
import Karabiner.SymbolMap
import Karabiner.FilterVector
import Karabiner.FilterScope
import Karabiner.CompileIdentifier
import Karabiner.TraverseScope
import Karabiner.IdentifierMap
import Karabiner.Reload
import Karabiner.ReloadFreezes
import Karabiner.ReloadUsable
import Karabiner.RemapclassesWalk
import Karabiner.FilePath
import Karabiner.ExtractedPtree
import Karabiner.IncludeCourse
import Karabiner.IncludeCleanup
import Karabiner.ReplacedIncludes
import Karabiner.TextualInclusion
import Karabiner.SimultaneousTermination
import Karabiner.ModifierBits
import Karabiner.FireModifiers
import Karabiner.NumpadFlag
import Karabiner.BounceRemoval
import Karabiner.FNKeyHack
import Karabiner.StatusMessage
import Karabiner.ArgumentBlock
import Karabiner.FilterDecode
import Karabiner.MarkedText
import Karabiner.AutogenChoices
import Karabiner.AutogenPieces
import Karabiner.AutogenSubst
import Karabiner.AutogenUniform
import Karabiner.AutogenConnected
import Karabiner.AutogenConsistent
import Karabiner.Output
import Karabiner.VirtualKey
import Karabiner.ToEvent
import Karabiner.KeyToKey
import Karabiner.Via
import Karabiner.KeyOperations
import Karabiner.FireKeyDepth
import Karabiner.CapsLock
import Karabiner.KeyToKeyCapsLock
import Karabiner.PartialRun
import Karabiner.SymbolNames
import Karabiner.LexicalPath
import Karabiner.FilePathNormal
import Karabiner.FilePathRun
import Karabiner.FilePathLexical
import Karabiner.FilePathBounds
import Karabiner.FilePathNormalForm
import Karabiner.Utf8Copy
import Karabiner.DoubleCurlyBraces
import Karabiner.FireScrollWheel
import Karabiner.PointingRelativeToScroll
import Karabiner.DropAllKeys
import Karabiner.DropAllKeysRun
import Karabiner.DropAllKeysPass
import Karabiner.DropAllKeysPresses
import Karabiner.IgnoreMultipleSameKeyPress
import Karabiner.MouseKeyMoves
import Karabiner.LoadOwnership
import Karabiner.Counters
import Karabiner.SentCounters
import Karabiner.SendingShifts
import Karabiner.Tokenizer
import Karabiner.WeakPointer
import Karabiner.VectorBody
import Karabiner.LinkPath
import Karabiner.IntrusiveList
import Karabiner.RoundRobin
import Karabiner.ScrollMomentum
import Karabiner.DependingPressingPeriodKeyToKey
import Karabiner.PressingPeriodBalance
import Karabiner.FireKeyFrame
import Karabiner.OutputReplay
import Karabiner.OutputFaithful
import Karabiner.InternalReset
import Karabiner.KeyToKeyBalance
import Karabiner.DelayedActions
import Karabiner.ComposedKeyToKeys
import Karabiner.Core
import Karabiner.ComposedBalance
import Karabiner.CoreRuns
import Karabiner.KeyRepeat
import Karabiner.Substitution
import Karabiner.TypedKeys
import Karabiner.SimpleRemappings
import Karabiner.RelatedLists
import Karabiner.RemapFilters
import Karabiner.FilterMeaning
import Karabiner.ElementFilters
import Karabiner.FilteredItems
