namespace NullContract.CharName

def ancientScriptsNames : String :=
    ":10000aLINEAR_B_SYLLABLE_B008_AdB038_EdB028_IdB061_OdB010_UdB001_DAdB045_DEdB007_DIdB014_DOdB051_DUdB057_JA
    dB046_JE:1000DdB036_JOdB065_JUdB077_KAdB044_KEdB067_KIdB070_KOdB081_KUdB080_MAdB013_MEdB073_MIdB015_MOdB023_MU
    dB006_NAdB024_NEdB030_NIdB052_NOdB055_NUdB003_PAdB072_PEdB039_PIdB011_POdB050_PUdB016_QAdB078_QEdB021_QIdB032_QO
    :10028dB060_RAdB027_REdB053_RIdB002_ROdB026_RUdB031_SAdB009_SEdB041_SIdB012_SOdB058_SUdB059_TAdB004_TEdB037_TI
    dB005_TOdB069_TUdB054_WAdB075_WEdB040_WIdB042_WO:1003CdB017_ZAdB074_ZE:1003FdB020_ZOdB025_A2dB043_A3dB085_AU
    dB071_DWEdB090_DWOdB048_NWAdB029_PU2dB062_PTEdB076_RA2dB033_RA3dB068_RO2dB066_TA2dB087_TWEdB091_TWO
    :10050cSYMBOL_B018dB019dB022dB034dB047dB049dB056dB063dB064dB079dB082dB083dB086dB089:10080cIDEOGRAM_B100_MAN
    dB102_WOMANdB104_DEERdB105_EQUIDdB105F_MAREdB105M_STALLIONdB106F_EWEdB106M_RAMdB107F_SHE-GOATdB107M_HE-GOAT
    dB108F_SOWdB108M_BOARdB109F_COWdB109M_BULLdB120_WHEATdB121_BARLEYdB122_OLIVEdB123_SPICEdB125_CYPERUS
    cMONOGRAM_B127_KAPOdB128_KANAKOcIDEOGRAM_B130_OILdB131_WINEdB132cMONOGRAM_B133_AREPAdB135_MERI
    cIDEOGRAM_B140_BRONZEdB141_GOLDdB142dB145_WOOLdB146dB150dB151_HORNdB152dB153dB154cMONOGRAM_B156_TURO2
    cIDEOGRAM_B157dB158dB159_CLOTHdB160dB161dB162_GARMENTdB163_ARMOURdB164dB165dB166dB167dB168dB169dB170dB171dB172
    dB173_MONTHdB174dB176_TREEdB177dB178dB179dB180dB181dB182dB183dB184dB185dB189dB190dB191_HELMETdB220_FOOTSTOOL
    dB225_BATHTUBdB230_SPEARdB231_ARROWdB232dB233_SWORDdB234dB236dB240_WHEELED_CHARIOTdB241_CHARIOT
    dB242_CHARIOT_FRAMEdB243_WHEELdB245dB246cMONOGRAM_B247_DIPTEcIDEOGRAM_B248dB249dB251dB252dB253dB254_DARTdB255
    dB256dB257dB258dB259dVESSEL_B155eB200eB201eB202eB203eB204eB205eB206eB207eB208eB209eB210eB211eB212eB213eB214eB215
    eB216eB217eB218eB219eB221eB222eB226eB227eB228eB229eB250eB305:10100aAEGEAN_WORD_SEPARATOR_LINEdDOTbCHECK_MARK
    :10107bNUMBER_ONEcTWOcTHREEcFOURcFIVEcSIXcSEVENcEIGHTcNINEcTENcTWENTYcTHIRTYcFORTYcFIFTYcSIXTYcSEVENTYcEIGHTY
    cNINETYcONE_HUNDREDcTWO_HUNDREDcTHREE_HUNDREDcFOUR_HUNDREDcFIVE_HUNDREDcSIX_HUNDREDcSEVEN_HUNDREDcEIGHT_HUNDRED
    cNINE_HUNDREDcONE_THOUSANDcTWO_THOUSANDcTHREE_THOUSANDcFOUR_THOUSANDcFIVE_THOUSANDcSIX_THOUSANDcSEVEN_THOUSAND
    cEIGHT_THOUSANDcNINE_THOUSANDcTEN_THOUSANDcTWENTY_THOUSANDcTHIRTY_THOUSANDcFORTY_THOUSANDcFIFTY_THOUSAND
    cSIXTY_THOUSANDcSEVENTY_THOUSANDcEIGHTY_THOUSANDcNINETY_THOUSAND:10137bWEIGHT_BASE_UNITcFIRST_SUBUNIT
    cSECOND_SUBUNITcTHIRD_SUBUNITcFOURTH_SUBUNITbDRY_MEASURE_FIRST_SUBUNITbLIQUID_MEASURE_FIRST_SUBUNIT
    bMEASURE_SECOND_SUBUNITcTHIRD_SUBUNITaGREEK_ACROPHONIC_ATTIC_ONE_QUARTEReHALFeDRACHMAdFIVEdFIFTYdFIVE_HUNDRED
    eTHOUSANDdFIFTY_THOUSANDdFIVE_TALENTSdTEN_TALENTSdFIFTY_TALENTSdONE_HUNDRED_TALENTSdFIVE_HUNDRED_TALENTS
    dONE_THOUSAND_TALENTSdFIVE_THOUSAND_TALENTSeSTATERSdTEN_STATERSdFIFTY_STATERSdONE_HUNDRED_STATERS
    dFIVE_HUNDRED_STATERSdONE_THOUSAND_STATERSdTEN_THOUSAND_STATERSdFIFTY_THOUSAND_STATERSdTEN_MNAS
    cHERAEUM_ONE_PLETHRONcTHESPIAN_ONEcHERMIONIAN_ONEcEPIDAUREAN_TWOcTHESPIAN_TWOcCYRENAIC_TWO_DRACHMAS
    cEPIDAUREAN_TWO_DRACHMAScTROEZENIAN_FIVEdTENeALTERNATE_FORMcHERMIONIAN_TENcMESSENIAN_TENcTHESPIAN_TENdTHIRTY
    cTROEZENIAN_FIFTYeALTERNATE_FORMcHERMIONIAN_FIFTYcTHESPIAN_FIFTYdONE_HUNDREDdTHREE_HUNDRED
    cEPIDAUREAN_FIVE_HUNDREDcTROEZENIAN_FIVE_HUNDREDcTHESPIAN_FIVE_HUNDREDcCARYSTIAN_FIVE_HUNDRED
    cNAXIAN_FIVE_HUNDREDcTHESPIAN_ONE_THOUSANDdFIVE_THOUSANDcDELPHIC_FIVE_MNAScSTRATIAN_FIFTY_MNASbONE_HALF_SIGN
    eALTERNATE_FORMbTWO_THIRDS_SIGNbTHREE_QUARTERS_SIGNbYEAR_SIGNbTALENT_SIGNbDRACHMA_SIGNbOBOL_SIGNbTWO_OBOLS_SIGN
    bTHREE_OBOLS_SIGNbFOUR_OBOLS_SIGNbFIVE_OBOLS_SIGNbMETRETES_SIGNbKYATHOS_BASE_SIGNbLITRA_SIGNbOUNKIA_SIGN
    bXESTES_SIGNbARTABE_SIGNbAROURA_SIGNbGRAMMA_SIGNbTRYBLION_BASE_SIGNbZERO_SIGNbONE_QUARTER_SIGNbSINUSOID_SIGN
    bINDICTION_SIGNaNOMISMA_SIGN:10190aROMAN_SEXTANS_SIGNbUNCIA_SIGNbSEMUNCIA_SIGNbSEXTULA_SIGNbDIMIDIA_SEXTULA_SIGN
    bSILIQUA_SIGNbDENARIUS_SIGNbQUINARIUS_SIGNbSESTERTIUS_SIGNbDUPONDIUS_SIGNbAS_SIGNbCENTURIAL_SIGNaASCIA_SYMBOL
    :101A0aGREEK_SYMBOL_TAU_RHO:101D0aPHAISTOS_DISC_SIGN_PEDESTRIANdPLUMED_HEADdTATTOOED_HEADdCAPTIVEdCHILDdWOMAN
    dHELMETdGAUNTLETdTIARAdARROWdBOWdSHIELDdCLUBdMANACLESdMATTOCKdSAWdLIDdBOOMERANGdCARPENTRY_PLANEdDOLIUMdCOMB
    dSLINGdCOLUMNdBEEHIVEdSHIPdHORNdHIDEdBULLS_LEGdCATdRAMdEAGLEdDOVEdTUNNYdBEEdPLANE_TREEdVINEdPAPYRUSdROSETTEdLILY
    dOX_BACKdFLUTEdGRATERdSTRAINERdSMALL_AXEdWAVY_BANDdCOMBINING_OBLIQUE_STROKE:10280aLYCIAN_LETTER_AcEcBcBHcGcDcIcW
    cZcTHcJcKcQcLcMcNcMMcNNcUcPcKKcRcScTcTTcANcENcHcX:102A0aCARIAN_LETTER_AcP2cDcLcUUUcRcLDcA2cQcBcMcOcD2cTcSHcSH2cS
    cC-18cUcNNcXcNcTT2cPcSScIcEcUUUUcKcK2cNDcUUcGcG2cSTcST2cNGcIIcC-39cTTcUUU2cRRcMBcMB2cMB3cMB4cLD2cE2cUUU3
    :102E0aCOPTIC_EPACT_THOUSANDS_MARKcDIGIT_ONEdTWOdTHREEdFOURdFIVEdSIXdSEVENdEIGHTdNINEcNUMBER_TENdTWENTYdTHIRTY
    dFORTYdFIFTYdSIXTYdSEVENTYdEIGHTYdNINETYdONE_HUNDREDdTWO_HUNDREDdTHREE_HUNDREDdFOUR_HUNDREDdFIVE_HUNDRED
    dSIX_HUNDREDdSEVEN_HUNDREDdEIGHT_HUNDREDdNINE_HUNDRED:10300aOLD_ITALIC_LETTER_AdBEdKEdDEdEdVEdZEdHEdTHEdIdKAdEL
    dEMdENdESHdOdPEdSHEdKUdERdESdTEdUdEKSdPHEdKHEdEFdERSdCHEdIIdUUdESScNUMERAL_ONEdFIVEdTENdFIFTY:1032DcLETTER_YE
    dNORTHERN_TSEdSOUTHERN_TSEaGOTHIC_LETTER_AHSAcBAIRKANcGIBAcDAGScAIHVUScQAIRTHRAcIUJAcHAGLcTHIUTHcEIScKUSMAcLAGUS
    cMANNAcNAUTHScJERcURUScPAIRTHRAcNINETYcRAIDAcSAUILcTEIWScWINJAcFAIHUcIGGWScHWAIRcOTHALcNINE_HUNDRED
    :10350aOLD_PERMIC_LETTER_ANdBURdGAIdDOIdEdZHOIdDZHOIdZATAdDZITAdIdKOKEdLEIdMENOEdNENOEdVOOIdPEEIdREIdSIIdTAIdU
    dCHERYdSHOOIdSHCHOOIdYRYdYERUdOdOOdEFdHAdTSIUdVERdYERdYERIdYATdIEdYUdYAdIAaCOMBINING_OLD_PERMIC_LETTER_ANeDOI
    eZATAeNENOEeSII:10380aUGARITIC_LETTER_ALPAcBETAcGAMLAcKHAcDELTAcHOcWOcZETAcHOTAcTETcYODcKAFcSHINcLAMDAcMEMcDHAL
    cNUNcZUcSAMKAcAINcPUcSADEcQOPAcRASHAcTHANNAcGHAINcTOcIcUcSSU:1039FbWORD_DIVIDERaOLD_PERSIAN_SIGN_AdIdUdKAdKUdGA
    dGUdXAdCAdJAdJIdTAdTUdDAdDIdDUdTHAdPAdBAdFAdNAdNUdMAdMIdMUdYAdVAdVIdRAdRUdLAdSAdZAdSHAdSSAdHA:103C8dAURAMAZDAA
    dAURAMAZDAA-2dAURAMAZDAAHAdXSHAAYATHIYAdDAHYAAUSHdDAHYAAUSH-2dBAGAdBUUMISHcWORD_DIVIDERcNUMBER_ONEdTWOdTEN
    dTWENTYdHUNDRED:10400aDESERET_CAPITAL_LETTER_LONG_IeEeAeAHeOeOOdSHORT_IeEeAeAHeOeOOdAYdOWdWUdYEEdHdPEEdBEEdTEE
    dDEEdCHEEdJEEdKAYdGAYdEFdVEEdETHdTHEEdESdZEEdESHdZHEEdERdELdEMdENdENGdOIdEWbSMALL_LETTER_LONG_IeEeAeAHeOeOO
    dSHORT_IeEeAeAHeOeOOdAYdOWdWUdYEEdHdPEEdBEEdTEEdDEEdCHEEdJEEdKAYdGAYdEFdVEEdETHdTHEEdESdZEEdESHdZHEEdERdELdEMdEN
    dENGdOIdEWaSHAVIAN_LETTER_PEEPcTOTcKICKcFEEcTHIGHcSOcSUREcCHURCHcYEAcHUNGcBIBcDEADcGAGcVOWcTHEYcZOOcMEASURE
    cJUDGEcWOEcHA-HAcLOLLcMIMEcIFcEGGcASHcADOcONcWOOLcOUTcAHcROARcNUNcEATcAGEcICEcUPcOAKcOOZEcOILcAWEcAREcORcAIRcERR
    cARRAYcEARcIANcYEWaOSMANYA_LETTER_ALEFcBAcTAcJAcXAcKHAcDEELcRAcSAcSHIINcDHAcCAYNcGAcFAcQAAFcKAAFcLAANcMIINcNUUN
    cWAWcHAcYAcAcEcIcOcUcAAcEEcOO:104A0bDIGIT_ZEROcONEcTWOcTHREEcFOURcFIVEcSIXcSEVENcEIGHTcNINE
    :104B0aOSAGE_CAPITAL_LETTER_AdAIdAINdAHdBRAdCHAdEHCHAdEdEINdHAdHYAdIdKAdEHKAdKYAdLAdMAdNAdOdOINdPAdEHPAdSAdSHA
    dTAdEHTAdTSAdEHTSAdTSHAdDHAdUdWAdKHAdGHAdZAdZHA:104D8bSMALL_LETTER_AdAIdAINdAHdBRAdCHAdEHCHAdEdEINdHAdHYAdIdKA
    dEHKAdKYAdLAdMAdNAdOdOINdPAdEHPAdSAdSHAdTAdEHTAdTSAdEHTSAdTSHAdDHAdUdWAdKHAdGHAdZAdZHA:10500aELBASAN_LETTER_AcBE
    cCEcCHEcDEcNDEcDHEcEIcEcFEcGEcGJEcHEcIcJEcKEcLEcLLEcMEcNEcNAcNJEcOcPEcQEcREcRREcSEcSHEcTEcTHEcUcVEcXEcYcZEcZHE
    cGHEcGHAMMAcKHE:10530aCAUCASIAN_ALBANIAN_LETTER_ALTdBETdGIMdDATdEBdZARLdEYNdZHILdTASdCHAdYOWDdZHAdIRBdSHAdLAN
    dINYAdXEYNdDYANdCARdJHOXdKARdLYITdHEYTdQAYdAORdCHOYdCHIdCYAYdMAQdQARdNOWCdDZYAYdSHAKdJAYNdONdTYAYdFAMdDZAYdCHAT
    dPENdGHEYSdRATdSEYKdVEYZdTIWRdSHOYdIWNdCYAWdCAYNdYAYDdPIWRdKIW:1056FcCITATION_MARKaVITHKUQI_CAPITAL_LETTER_AdBBE
    dBEdCEdCHEdDEdDHEdEIdEdFEdGA:1057CdHAdHHAdIdIJEdJEdKAdLAdLLAdMEdNEdNJEdOdPEdQAdRE:1058CdSEdSHEdTEdTHEdUdVEdXE
    :10594dYdZE:10597bSMALL_LETTER_AdBBEdBEdCEdCHEdDEdDHEdEIdEdFEdGA:105A3dHAdHHAdIdIJEdJEdKAdLAdLLAdMEdNEdNJEdOdPE
    dQAdRE:105B3dSEdSHEdTEdTHEdUdVEdXE:105BBdYdZE:10600aLINEAR_A_SIGN_AB001dAB002dAB003dAB004dAB005dAB006dAB007
    dAB008dAB009dAB010dAB011dAB013dAB016dAB017dAB020dAB021dAB021FdAB021MdAB022dAB022FdAB022MdAB023dAB023MdAB024
    dAB026dAB027dAB028dA028BdAB029dAB030dAB031dAB034dAB037dAB038dAB039dAB040dAB041dAB044dAB045dAB046dAB047dAB048
    dAB049dAB050dAB051dAB053dAB054dAB055dAB056dAB057dAB058dAB059dAB060dAB061dAB065dAB066dAB067dAB069dAB070dAB073
    dAB074dAB076dAB077dAB078dAB079dAB080dAB081dAB082dAB085dAB086dAB087dA100-102dAB118dAB120dA120BdAB122dAB123dAB131A
    dAB131BdA131CdAB164dAB171dAB180dAB188dAB191dA301dA302dA303dA304dA305dA306dA307dA308dA309AdA309BdA309CdA310dA311
    dA312dA313AdA313BdA313CdA314dA315dA316dA317dA318dA319dA320dA321dA322dA323dA324dA325dA326dA327dA328dA329dA330
    dA331dA332dA333dA334dA335dA336dA337dA338dA339dA340dA341dA342dA343dA344dA345dA346dA347dA348dA349dA350dA351dA352
    dA353dA354dA355dA356dA357dA358dA359dA360dA361dA362dA363dA364dA365dA366dA367dA368dA369dA370dA371dA400-VAS
    dA401-VASdA402-VASdA403-VASdA404-VASdA405-VASdA406-VASdA407-VASdA408-VASdA409-VASdA410-VASdA411-VASdA412-VAS
    dA413-VASdA414-VASdA415-VASdA416-VASdA417-VASdA418-VASdA501dA502dA503dA504dA505dA506dA508dA509dA510dA511dA512
    dA513dA515dA516dA520dA521dA523dA524dA525dA526dA527dA528dA529dA530dA531dA532dA534dA535dA536dA537dA538dA539dA540
    dA541dA542dA545dA547dA548dA549dA550dA551dA552dA553dA554dA555dA556dA557dA559dA563dA564dA565dA566dA568dA569dA570
    dA571dA572dA573dA574dA575dA576dA577dA578dA579dA580dA581dA582dA583dA584dA585dA586dA587dA588dA589dA591dA592dA594
    dA595dA596dA598dA600dA601dA602dA603dA604dA606dA608dA609dA610dA611dA612dA613dA614dA615dA616dA617dA618dA619dA620
    dA621dA622dA623dA624dA626dA627dA628dA629dA634dA637dA638dA640dA642dA643dA644dA645dA646dA648dA649dA651dA652dA653
    dA654dA655dA656dA657dA658dA659dA660dA661dA662dA663dA664:10740dA701_AdA702_BdA703_DdA704_EdA705_FdA706_HdA707_J
    dA708_KdA709_LdA709-2_L2dA709-3_L3dA709-4_L4dA709-6_L6dA710_WdA711_XdA712_YdA713_OMEGAdA714_ABBdA715_BBdA717_DD
    dA726_EYYYdA732_JE:10760dA800dA801dA802dA803dA804dA805dA806dA807:10780aMODIFIER_LETTER_SMALL_CAPITAL_AA
    cSUPERSCRIPT_TRIANGULAR_COLONdHALF_TRIANGULAR_COLONcSMALL_AEdCAPITAL_BdB_WITH_HOOK:10787dDZ_DIGRAPH
    fWITH_RETROFLEX_HOOKgCURLdDEZH_DIGRAPHdD_WITH_TAILfHOOKgAND_TAILdREVERSED_EdCLOSED_REVERSED_OPEN_EdFENG_DIGRAPH
    dRAMS_HORNdCAPITAL_GdG_WITH_HOOKdCAPITAL_G_WITH_HOOKdH_WITH_STROKEdCAPITAL_HdHENG_WITH_HOOK
    dDOTLESS_J_WITH_STROKE_AND_HOOKdLS_DIGRAPHdLZ_DIGRAPHdL_WITH_BELTdCAPITAL_L_WITH_BELT
    dL_WITH_RETROFLEX_HOOK_AND_BELTdLEZHeWITH_RETROFLEX_HOOKdTURNED_YfWITH_BELTdO_WITH_STROKEdCAPITAL_OE
    dCLOSED_OMEGAdQdTURNED_R_WITH_LONG_LEGiAND_RETROFLEX_HOOKdR_WITH_TAILfFISHHOOKdCAPITAL_RdTC_DIGRAPH_WITH_CURL
    dTS_DIGRAPHfWITH_RETROFLEX_HOOKdTESH_DIGRAPHdT_WITH_RETROFLEX_HOOKdV_WITH_RIGHT_HOOK:107B2dCAPITAL_Y
    cGLOTTAL_STOP_WITH_STROKEcREVERSED_GLOTTAL_STOP_WITH_STROKEcBILABIAL_CLICKcDENTAL_CLICKcLATERAL_CLICK
    cALVEOLAR_CLICKcRETROFLEX_CLICK_WITH_RETROFLEX_HOOKcSMALL_S_WITH_CURL:10800aCYPRIOT_SYLLABLE_AcEcIcOcUcJA
    :10808cJO:1080AcKAcKEcKIcKOcKUcLAcLEcLIcLOcLUcMAcMEcMIcMOcMUcNAcNEcNIcNOcNUcPAcPEcPIcPOcPUcRAcREcRIcROcRUcSAcSE
    cSIcSOcSUcTAcTEcTIcTOcTUcWAcWEcWIcWO:10837cXAcXE:1083CcZA:1083FcZOaIMPERIAL_ARAMAIC_LETTER_ALEPHdBETHdGIMEL
    dDALETHdHEdWAWdZAYINdHETHdTETHdYODHdKAPHdLAMEDHdMEMdNUNdSAMEKHdAYINdPEdSADHEdQOPHdRESHdSHINdTAW
    :10857cSECTION_SIGNcNUMBER_ONEdTWOdTHREEdTENdTWENTYdONE_HUNDREDeTHOUSANDdTEN_THOUSANDaPALMYRENE_LETTER_ALEPH
    cBETHcGIMELcDALETHcHEcWAWcZAYINcHETHcTETHcYODHcKAPHcLAMEDHcMEMcFINAL_NUNcNUNcSAMEKHcAYINcPEcSADHEcQOPHcRESHcSHIN
    cTAWbLEFT-POINTING_FLEURONbRIGHT-POINTING_FLEURONbNUMBER_ONEcTWOcTHREEcFOURcFIVEcTENcTWENTY
    aNABATAEAN_LETTER_FINAL_ALEPHcALEPHcFINAL_BETHcBETHcGIMELcDALETHcFINAL_HEcHEcWAWcZAYINcHETHcTETHcFINAL_YODHcYODH
    cFINAL_KAPHcKAPHcFINAL_LAMEDHcLAMEDHcFINAL_MEMcMEMcFINAL_NUNcNUNcSAMEKHcAYINcPEcSADHEcQOPHcRESHcFINAL_SHINcSHIN
    cTAW:108A7bNUMBER_ONEcTWOcTHREEcFOURbCRUCIFORM_NUMBER_FOURbNUMBER_FIVEcTENcTWENTYcONE_HUNDRED
    :108E0aHATRAN_LETTER_ALEPHcBETHcGIMELcDALETH-RESHcHEcWAWcZAYNcHETHcTETHcYODHcKAPHcLAMEDHcMEMcNUNcSAMEKHcAYNcPE
    cSADHEcQOPH:108F4cSHINcTAW:108FBbNUMBER_ONEcFIVEcTENcTWENTYcONE_HUNDREDaPHOENICIAN_LETTER_ALFcBETcGAMLcDELTcHE
    cWAUcZAIcHETcTETcYODcKAFcLAMDcMEMcNUNcSEMKcAINcPEcSADEcQOFcROSHcSHINcTAUbNUMBER_ONEcTENcTWENTYcONE_HUNDREDcTWO
    cTHREE:1091FbWORD_SEPARATORaLYDIAN_LETTER_AcBcGcDcEcVcIcYcKcLcMcNcOcRcSScTcUcFcQcScTTcANcENcLYcNNcC
    :1093FbTRIANGULAR_MARK:10980aMEROITIC_HIEROGLYPHIC_LETTER_AdEdIdOdYAdWAdBAdBA-2dPAdMAdNAdNA-2dNEdNE-2dRAdRA-2dLA
    dKHAdHHAdSAdSA-2dSEdKAdQAdTAdTA-2dTEdTE-2dTOdDAcSYMBOL_VIDJdVIDJ-2bCURSIVE_LETTER_AdEdIdOdYAdWAdBAdPAdMAdNAdNE
    dRAdLAdKHAdHHAdSAdARCHAIC_SAdSEdKAdQAdTAdTEdTOdDA:109BCcFRACTION_ELEVEN_TWELFTHSdONE_HALFcLOGOGRAM_RMTdIMN
    cNUMBER_ONEdTWOdTHREEdFOURdFIVEdSIXdSEVENdEIGHTdNINEdTENdTWENTYdTHIRTYdFORTYdFIFTYdSIXTYdSEVENTY
    :109D2dONE_HUNDREDdTWO_HUNDREDdTHREE_HUNDREDdFOUR_HUNDREDdFIVE_HUNDREDdSIX_HUNDREDdSEVEN_HUNDREDdEIGHT_HUNDRED
    dNINE_HUNDREDdONE_THOUSANDdTWO_THOUSANDdTHREE_THOUSANDdFOUR_THOUSANDdFIVE_THOUSANDdSIX_THOUSANDdSEVEN_THOUSAND
    dEIGHT_THOUSANDdNINE_THOUSANDdTEN_THOUSANDdTWENTY_THOUSANDdTHIRTY_THOUSANDdFORTY_THOUSANDdFIFTY_THOUSAND
    dSIXTY_THOUSANDdSEVENTY_THOUSANDdEIGHTY_THOUSANDdNINETY_THOUSANDdONE_HUNDRED_THOUSANDdTWO_HUNDRED_THOUSAND
    dTHREE_HUNDRED_THOUSANDdFOUR_HUNDRED_THOUSANDdFIVE_HUNDRED_THOUSANDdSIX_HUNDRED_THOUSANDdSEVEN_HUNDRED_THOUSAND
    dEIGHT_HUNDRED_THOUSANDdNINE_HUNDRED_THOUSANDcFRACTION_ONE_TWELFTHdTWO_TWELFTHSdTHREE_TWELFTHSdFOUR_TWELFTHS
    dFIVE_TWELFTHSdSIX_TWELFTHSdSEVEN_TWELFTHSdEIGHT_TWELFTHSdNINE_TWELFTHSdTEN_TWELFTHSaKHAROSHTHI_LETTER_A
    bVOWEL_SIGN_IdUdVOCALIC_R:10A05dEdO:10A0CcLENGTH_MARKbSIGN_DOUBLE_RING_BELOWcANUSVARAcVISARGAbLETTER_KAcKHAcGA
    cGHA:10A15cCAcCHAcJA:10A19cNYAcTTAcTTHAcDDAcDDHAcNNAcTAcTHAcDAcDHAcNAcPAcPHAcBAcBHAcMAcYAcRAcLAcVAcSHAcSSAcSAcZA
    cHAcKKAcTTTHAcTTTAcVHA:10A38bSIGN_BAR_ABOVEcCAUDAcDOT_BELOW:10A3FbVIRAMAbDIGIT_ONEcTWOcTHREEcFOURbNUMBER_TEN
    cTWENTYcONE_HUNDREDdTHOUSANDbFRACTION_ONE_HALF:10A50bPUNCTUATION_DOTcSMALL_CIRCLEcCIRCLEcCRESCENT_BARcMANGALAM
    cLOTUScDANDAcDOUBLE_DANDAcLINES:10A60aOLD_SOUTH_ARABIAN_LETTER_HEeLAMEDHeHETHeMEMeQOPHeWAWeSHINeRESHeBETHeTAW
    eSATeKAPHeNUNeKHETHeSADHEeSAMEKHeFEeALEFeAYNeDHADHEeGIMELeDALETHeGHAYNeTETHeZAYNeDHALETHeYODHeTHAWeTHETH
    dNUMBER_ONEeFIFTYdNUMERIC_INDICATORbNORTH_ARABIAN_LETTER_HEHeLAMeHAHeMEEMeQAFeWAWeES-2eREHeBEHeTEHeES-1eKAFeNOON
    eKHAHeSADeES-3eFEHeALEFeAINeDADeGEEMeDALeGHAINeTAHeZAINeTHALeYEHeTHEHeZAHdNUMBER_ONEeTENeTWENTY
    :10AC0aMANICHAEAN_LETTER_ALEPHcBETHcBHETHcGIMELcGHIMELcDALETHcHEcWAWbSIGN_UDbLETTER_ZAYINcZHAYINcJAYINcJHAYIN
    cHETHcTETHcYODHcKAPHcXAPHcKHAPHcLAMEDHcDHAMEDHcTHAMEDHcMEMcNUNcSAMEKHcAYINcAAYINcPEcFEcSADHEcQOPHcXOPHcQHOPH
    cRESHcSHINcSSHINcTAWbABBREVIATION_MARK_ABOVEdBELOW:10AEBbNUMBER_ONEcFIVEcTENcTWENTYcONE_HUNDREDbPUNCTUATION_STAR
    cFLEURONcDOUBLE_DOT_WITHIN_DOTcDOT_WITHIN_DOTcDOTcTWO_DOTScLINE_FILLER:10B00aAVESTAN_LETTER_AcAAcAOcAAOcANcAAN
    cAEcAEEcEcEEcOcOOcIcIIcUcUUcKEcXEcXYEcXVEcGEcGGEcGHEcCEcJEcTEcTHEcDEcDHEcTTEcPEcFEcBEcBHEcNGEcNGYEcNGVEcNEcNYE
    cNNEcMEcHMEcYYEcYEcVEcREcLEcSEcZEcSHEcZHEcSHYEcSSHEcHE:10B39bABBREVIATION_MARK
    aTINY_TWO_DOTS_OVER_ONE_DOT_PUNCTUATIONaSMALL_TWO_DOTS_OVER_ONE_DOT_PUNCTUATION
    aLARGE_TWO_DOTS_OVER_ONE_DOT_PUNCTUATIONbONE_DOT_OVER_TWO_DOTS_PUNCTUATIONbTWO_RINGS_OVER_ONE_RING_PUNCTUATION
    bONE_RING_OVER_TWO_RINGS_PUNCTUATIONaINSCRIPTIONAL_PARTHIAN_LETTER_ALEPHdBETHdGIMELdDALETHdHEdWAWdZAYINdHETH
    dTETHdYODHdKAPHdLAMEDHdMEMdNUNdSAMEKHdAYINdPEdSADHEdQOPHdRESHdSHINdTAW:10B58cNUMBER_ONEdTWOdTHREEdFOURdTEN
    dTWENTYdONE_HUNDREDeTHOUSANDbPAHLAVI_LETTER_ALEPHdBETHdGIMELdDALETHdHEdWAW-AYIN-RESHdZAYINdHETHdTETHdYODHdKAPH
    dLAMEDHdMEM-QOPHdNUNdSAMEKHdPEdSADHEdSHINdTAW:10B78cNUMBER_ONEdTWOdTHREEdFOURdTENdTWENTYdONE_HUNDREDeTHOUSAND
    aPSALTER_PAHLAVI_LETTER_ALEPHdBETHdGIMELdDALETHdHEdWAW-AYIN-RESHdZAYINdHETHdYODHdKAPHdLAMEDHdMEM-QOPHdNUNdSAMEKH
    dPEdSADHEdSHINdTAW:10B99cSECTION_MARKcTURNED_SECTION_MARKcFOUR_DOTS_WITH_CROSSfDOT:10BA9cNUMBER_ONEdTWOdTHREE
    dFOURdTENdTWENTYdONE_HUNDRED:10C00aOLD_TURKIC_LETTER_ORKHON_AdYENISEI_AeAEdORKHON_IdYENISEI_IeEdORKHON_OeOE
    dYENISEI_OEdORKHON_ABdYENISEI_ABdORKHON_AEBdYENISEI_AEBdORKHON_AGdYENISEI_AGdORKHON_AEGdYENISEI_AEGdORKHON_AD
    dYENISEI_ADdORKHON_AEDeEZdYENISEI_EZdORKHON_AYdYENISEI_AYdORKHON_AEYdYENISEI_AEYdORKHON_AEKdYENISEI_AEK
    dORKHON_OEKdYENISEI_OEKdORKHON_ALdYENISEI_ALdORKHON_AELeELTeEMeANeAENdYENISEI_AENdORKHON_ENTdYENISEI_ENT
    dORKHON_ENCdYENISEI_ENCdORKHON_ENYdYENISEI_ENYeANGdORKHON_ENGdYENISEI_AENGdORKHON_EPeOPeICeECdYENISEI_EC
    dORKHON_AQdYENISEI_AQdORKHON_IQdYENISEI_IQdORKHON_OQdYENISEI_OQdORKHON_ARdYENISEI_ARdORKHON_AEReASeAESeASH
    dYENISEI_ASHdORKHON_ESHdYENISEI_ESHdORKHON_ATdYENISEI_ATdORKHON_AETdYENISEI_AETdORKHON_OTeBASH
    :10C80bHUNGARIAN_CAPITAL_LETTER_AeAAeEBeAMBeECeENCeECSeEDeANDeEeCLOSE_EeEEeEFeEGeEGYeEHeIeIIeEJeEKeAKeUNKeELeELY
    eEMeENeENYeOeOOeNIKOLSBURG_OEeRUDIMENTA_OEeOEEeEPeEMPeEReSHORT_EReESeESZeETeENTeETYeECHeUeUUeNIKOLSBURG_UE
    eRUDIMENTA_UEeEVeEZeEZSeENT-SHAPED_SIGNeUS:10CC0cSMALL_LETTER_AeAAeEBeAMBeECeENCeECSeEDeANDeEeCLOSE_EeEEeEFeEG
    eEGYeEHeIeIIeEJeEKeAKeUNKeELeELYeEMeENeENYeOeOOeNIKOLSBURG_OEeRUDIMENTA_OEeOEEeEPeEMPeEReSHORT_EReESeESZeETeENT
    eETYeECHeUeUUeNIKOLSBURG_UEeRUDIMENTA_UEeEVeEZeEZSeENT-SHAPED_SIGNeUS:10CFAcNUMBER_ONEdFIVEdTENdFIFTY
    dONE_HUNDREDeTHOUSANDaHANIFI_ROHINGYA_LETTER_AdBAdPAdTAdTTAdJAdCAdHAdKHAdFAdDAdDDAdRAdRRAdZAdSAdSHAdKAdGAdLAdMA
    dNAdWAdKINNA_WAdYAdKINNA_YAdNGAdNYAdVAcVOWEL_AdIdUdEdOcMARK_SAKINdNA_KHONNAcSIGN_HARBAHAYdTAHALAdTANAdTASSI
    :10D30cDIGIT_ZEROdONEdTWOdTHREEdFOURdFIVEdSIXdSEVENdEIGHTdNINE:10E60aRUMI_DIGIT_ONEcTWOcTHREEcFOURcFIVEcSIX
    cSEVENcEIGHTcNINEbNUMBER_TENcTWENTYcTHIRTYcFORTYcFIFTYcSIXTYcSEVENTYcEIGHTYcNINETYcONE_HUNDREDcTWO_HUNDRED
    cTHREE_HUNDREDcFOUR_HUNDREDcFIVE_HUNDREDcSIX_HUNDREDcSEVEN_HUNDREDcEIGHT_HUNDREDcNINE_HUNDREDbFRACTION_ONE_HALF
    dQUARTERdTHIRDcTWO_THIRDS:10E80aYEZIDI_LETTER_ELIFcBEcPEcPHEcTHEcSEcCIMcCHIMcCHHIMcHHAcXAcDALcZALcRAcRHAcZAcJA
    cSINcSHINcSADcDADcTAcZEcEYNcXHEYNcFAcVAdALTERNATE_FORMcQAFcKAFcKHAFcGAFcLAMcMIMcNUNcUMcWAWcOWcEWcHAYcYOTcET
    :10EABbCOMBINING_HAMZA_MARKcMADDA_MARKbHYPHENATION_MARK:10EB0bLETTER_LAM_WITH_DOT_ABOVE
    cYOT_WITH_CIRCUMFLEX_ABOVE:10F00aOLD_SOGDIAN_LETTER_ALEPHdFINAL_ALEPHdBETHdFINAL_BETHdGIMELdHEdFINAL_HEdWAW
    dZAYINdHETHdYODHdKAPHdLAMEDHdMEMdNUNdFINAL_NUNfWITH_VERTICAL_TAILdSAMEKHdAYINdALTERNATE_AYINdPEdSADHE
    dFINAL_SADHEfWITH_VERTICAL_TAILdRESH-AYIN-DALETHdSHINdTAWdFINAL_TAWfWITH_VERTICAL_TAILcNUMBER_ONEdTWOdTHREEdFOUR
    dFIVEdTENdTWENTYdTHIRTYdONE_HUNDREDcFRACTION_ONE_HALFcLIGATURE_AYIN-DALETH:10F30aSOGDIAN_LETTER_ALEPHcBETHcGIMEL
    cHEcWAWcZAYINcHETHcYODHcKAPHcLAMEDHcMEMcNUNcSAMEKHcAYINcPEcSADHEcRESH-AYINcSHINcTAWcFETHcLESHbINDEPENDENT_SHIN
    bCOMBINING_DOT_BELOWcTWO_DOTS_BELOWcDOT_ABOVEcTWO_DOTS_ABOVEcCURVE_ABOVEdBELOWcHOOK_ABOVEdBELOWcLONG_HOOK_BELOW
    cRESH_BELOWcSTROKE_BELOWbNUMBER_ONEcTENcTWENTYcONE_HUNDREDbPUNCTUATION_TWO_VERTICAL_BARSfWITH_DOTS
    cCIRCLE_WITH_DOTcTWO_CIRCLES_WITH_DOTScHALF_CIRCLE_WITH_DOT:10F70aOLD_UYGHUR_LETTER_ALEPHdBETHdGIMEL-HETHdWAW
    dZAYINdFINAL_HETHdYODHdKAPHdLAMEDHdMEMdNUNdSAMEKHdPEdSADHEdRESHdSHINdTAWdLESHcCOMBINING_DOT_ABOVEeBELOW
    dTWO_DOTS_ABOVEfBELOWcPUNCTUATION_BARdTWO_BARSeDOTSdFOUR_DOTS:10FB0aCHORASMIAN_LETTER_ALEPHcSMALL_ALEPHcBETH
    cGIMELcDALETHcHEcWAWcCURLED_WAWcZAYINcHETHcYODHcKAPHcLAMEDHcMEMcNUNcSAMEKHcAYINcPEcRESHcSHINcTAWbNUMBER_ONEcTWO
    cTHREEcFOURcTENcTWENTYcONE_HUNDRED:10FE0aELYMAIC_LETTER_ALEPHcBETHcGIMELcDALETHcHEcWAWcZAYINcHETHcTETHcYODHcKAPH
    cLAMEDHcMEMcNUNcSAMEKHcAYINcPEcSADHEcQOPHcRESHcSHINcTAWbLIGATURE_ZAYIN-YODH"

end NullContract.CharName
