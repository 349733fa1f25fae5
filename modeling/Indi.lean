import Indi.Base.Property
import Indi.Base.LilXml
import Indi.Base.Device
import Indi.Base.BuildProp
import Indi.Base.SetValue
import Indi.Base.Run
import Indi.Base.Locking
import Indi.Base.RegistryProperties
import Indi.Base.BindingProperties
import Indi.Base.Concurrency
import Indi.Base.DistinctDefinitions
import Indi.Base.UpdateProperties
import Indi.Base.DefinitionProperties
import Indi.Base.UpdateFrame
import Indi.Base.UpdatePatches
import Indi.Base.UpdateIdempotence
import Indi.Base.ClientRegistry
import Indi.Base.Accessors
import Indi.Base.MessageLog
import Indi.Drivers.PMC8
import Indi.Drivers.PMC8Slew
import Indi.Drivers.Imager
import Indi.Drivers.ImagerBatch
import Indi.Drivers.ImagerClient
import Indi.Drivers.WandererRotatorLite
import Indi.Drivers.Angle
