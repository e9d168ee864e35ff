import DataCollector.CollectorPython
import DataCollector.CollectorDict
import DataCollector.CollectorCommonBlock
import DataCollector.CollectorCommonBlockShape
import DataCollector.CollectorSession
import DataCollector.CollectorSpanStream
import DataCollector.CollectorPayloads
import DataCollector.CollectorLifecycle
